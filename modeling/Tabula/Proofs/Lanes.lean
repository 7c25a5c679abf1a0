import Mathlib.Data.List.Perm.Basic
import Tabula.Query.Kanban
import Tabula.Model.Sample
/-! # Kanban lanes are a stable partition of the rows

    Sorting the rows of a table into kanban lanes puts every row in exactly one lane, and
    each lane keeps the rows in table order (`lanes_stable_partition`).  Without a grouping
    column of the table there is one no-value lane holding every row.  Grouped by a column,
    the lanes are, in order,

    * one for each nonempty option of a select column, in option order
      (`Column.optionTitles`);
    * one for each other text that is not blank, in the order the rows first show it,
      each text once (`Column.foundTitles`);
    * the no-value lane, when a row's text is blank or there is no other lane.

    A row whose text is blank goes to the no-value lane, and any other row to the first
    lane whose title is its text (`Table.lanes_of_column`).

    The code finds a row's lane by adding the rows one at a time (`addToLane`).
    `distribute` states the same partition title by title: the first lane takes every item
    of its title and the lanes after it share the rest.  Adding an item keeps a partition
    of that form (`addToLane_distribute`), so the fold over the rows builds one
    (`foldl_laneStep`), and `distribute` is the partition by the first title of each item
    (`distribute_eq_mapIdx`). -/

namespace Tabula

/-- The text of a row's cell in a column. -/
def Row.textIn (r : Row) (c : Column) : String := cellText (r.get? c.key)

namespace Column

/-- The titles of the lanes a column's options open: the nonempty options of a select
    column, in option order; none for a column of another kind. -/
def optionTitles (c : Column) : List String :=
  if c.kind = .select then c.options.filter (!·.isEmpty) else []

/-- The texts of rows that open lanes of their own: those that are not blank and are no
    option title, each once, in the order the rows first show them. -/
def foundTitles (c : Column) (rows : List Row) : List String :=
  ((rows.map (·.textIn c)).filter fun s =>
    !Text.isBlankText s && !c.optionTitles.contains s).eraseDups

/-- The titles of the lanes before the no-value lane. -/
def laneTitles (c : Column) (rows : List Row) : List String :=
  c.optionTitles ++ c.foundTitles rows

/-- The rows of the lane at position `i`: those whose text is not blank and has its first
    lane there. -/
def laneRows (c : Column) (rows : List Row) (i : Nat) : List Key :=
  (rows.filter fun r =>
    (c.laneTitles rows).idxOf (r.textIn c) == i && !Text.isBlankText (r.textIn c)).map (·.key)

/-- The rows whose text is blank. -/
def blankRows (c : Column) (rows : List Row) : List Key :=
  (rows.filter fun r => Text.isBlankText (r.textIn c)).map (·.key)

/-- The text and key of each row whose text is not blank. -/
def items (c : Column) (rows : List Row) : List (String × Key) :=
  (rows.filter fun r => !Text.isBlankText (r.textIn c)).map fun r => (r.textIn c, r.key)

end Column

/-! ## Partitions title by title -/

/-- Lanes under the given titles: the first lane takes every item of its title, and the
    lanes after it share the rest. -/
def distribute : List String → List (String × Key) → List Lane
  | [], _ => []
  | s :: titles, items =>
    ⟨s, (items.filter (·.1 == s)).map (·.2), false⟩ ::
      distribute titles (items.filter (·.1 != s))

@[simp] theorem distribute_nil (items : List (String × Key)) : distribute [] items = [] := rfl

theorem length_distribute : ∀ (titles : List String) (items : List (String × Key)),
    (distribute titles items).length = titles.length
  | [], _ => rfl
  | _ :: titles, items => by
    simp [distribute, length_distribute titles]

/-- With no items, each title has an empty lane. -/
theorem distribute_no_items : ∀ titles : List String,
    distribute titles [] = titles.map fun s => ⟨s, [], false⟩
  | [] => rfl
  | s :: titles => by simp [distribute, distribute_no_items titles]

/-- Items whose titles are all among `titles`. -/
def Covered (titles : List String) (items : List (String × Key)) : Prop :=
  ∀ p ∈ items, p.1 ∈ titles

theorem Covered.of_cons {s : String} {titles : List String} {items : List (String × Key)}
    (h : Covered (s :: titles) items) : Covered titles (items.filter (·.1 != s)) := by
  intro p hp
  obtain ⟨hp, hne⟩ := List.mem_filter.1 hp
  rcases List.mem_cons.1 (h p hp) with heq | hmem
  · simp [heq] at hne
  · exact hmem

theorem eq_nil_of_covered_nil {items : List (String × Key)} (h : Covered [] items) :
    items = [] :=
  List.eq_nil_iff_forall_not_mem.2 fun p hp => by simpa using h p hp

/-- **Adding an item** to a partition puts it in the first lane of its title, or in a new
    lane at the end when no lane has that title. -/
theorem addToLane_distribute (s : String) (k : Key) : ∀ {titles : List String}
    {items : List (String × Key)}, Covered titles items →
    addToLane s k (distribute titles items) =
      distribute (if s ∈ titles then titles else titles ++ [s]) (items ++ [(s, k)])
  | [], items, h => by
    obtain rfl := eq_nil_of_covered_nil h
    simp [distribute, addToLane]
  | t :: titles, items, h => by
    by_cases hts : t = s
    · subst hts
      simp [distribute, addToLane, List.filter_append]
    · -- the first lane is not the item's; the rest of the partition takes it
      rw [distribute, addToLane, if_neg (by simpa using hts), addToLane_distribute s k h.of_cons]
      by_cases hs : s ∈ titles
      · have hs' : s ∈ t :: titles := List.mem_cons_of_mem _ hs
        simp [hs, hs', distribute, List.filter_append, Ne.symm hts]
      · have hs' : s ∉ t :: titles := by simp [Ne.symm hts, hs]
        simp [hs, hs', distribute, List.filter_append, Ne.symm hts]

/-- The lanes of a partition hold each covered item once. -/
theorem distribute_rows_perm : ∀ {titles : List String} {items : List (String × Key)},
    Covered titles items → ((distribute titles items).flatMap (·.rows)).Perm (items.map (·.2))
  | [], items, h => by simp [eq_nil_of_covered_nil h]
  | s :: titles, items, h => by
    rw [distribute, List.flatMap_cons]
    -- the first lane takes the items of its title, the others the rest
    have hsplit := (List.filter_append_perm (·.1 == s) items).map (·.2)
    rw [List.map_append] at hsplit
    exact ((distribute_rows_perm h.of_cons).append_left _).trans hsplit

/-- Each lane of a partition keeps its items in order. -/
theorem distribute_rows_sublist : ∀ {titles : List String} {items : List (String × Key)},
    ∀ l ∈ distribute titles items, l.rows.Sublist (items.map (·.2))
  | [], _, _, h => by simp at h
  | s :: titles, items, l, h => by
    rcases List.mem_cons.1 h with rfl | h
    · exact List.filter_sublist.map _
    · exact (distribute_rows_sublist l h).trans (List.filter_sublist.map _)

/-- A partition puts each item in the lane of the first position of its title. -/
theorem distribute_eq_mapIdx : ∀ (titles : List String) (items : List (String × Key)),
    distribute titles items = titles.mapIdx fun i s =>
      ⟨s, (items.filter fun p => titles.idxOf p.1 == i).map (·.2), false⟩
  | [], _ => rfl
  | s :: titles, items => by
    rw [distribute, List.mapIdx_cons, distribute_eq_mapIdx titles]
    -- an item is at position `0` when its title is `s`, and one further on otherwise
    have hfirst : (items.filter fun p => (s :: titles).idxOf p.1 == 0) =
        items.filter (·.1 == s) := by
      refine List.filter_congr fun p _ => ?_
      by_cases h : p.1 = s
      · simp [h]
      · simp [h, Ne.symm h]
    have hrest (i : Nat) : (items.filter fun p => (s :: titles).idxOf p.1 == i + 1) =
        (items.filter (·.1 != s)).filter fun p => titles.idxOf p.1 == i := by
      rw [List.filter_filter]
      refine List.filter_congr fun p _ => ?_
      by_cases h : p.1 = s
      · simp [h]
      · simp [h, Ne.symm h]
    simp only [hfirst, hrest]

/-- Removing duplicates leaves each item once. -/
theorem nodup_eraseDups {α : Type} [BEq α] [LawfulBEq α] : ∀ xs : List α, xs.eraseDups.Nodup
  | [] => List.nodup_nil
  | a :: as => by
    rw [List.eraseDups_cons, List.nodup_cons]
    refine ⟨by simp [List.mem_eraseDups], nodup_eraseDups (as.filter fun b => !b == a)⟩
termination_by xs => xs.length
decreasing_by exact Nat.lt_succ_of_le (List.length_filter_le _ _)

/-! ## The fold over the rows -/

/-- One row of the fold: a blank row goes to the no-value rows, any other to the first lane
    of its text. -/
def laneStep (c : Column) (acc : List Lane × List Key) (r : Row) : List Lane × List Key :=
  if Text.isBlankText (r.textIn c) then (acc.1, acc.2 ++ [r.key])
  else (addToLane (r.textIn c) r.key acc.1, acc.2)

namespace Column

variable (c : Column)

theorem mem_foundTitles {rows : List Row} {s : String} :
    s ∈ c.foundTitles rows ↔
      (∃ r ∈ rows, r.textIn c = s) ∧ Text.isBlankText s = false ∧ s ∉ c.optionTitles := by
  simp [foundTitles, List.mem_eraseDups]

/-- The found titles are each a text of a row that is not blank and no option title. -/
theorem foundTitles_fresh {rows : List Row} {s : String} (h : s ∈ c.foundTitles rows) :
    s ∉ c.optionTitles ∧ Text.isBlankText s = false :=
  ⟨((c.mem_foundTitles).1 h).2.2, ((c.mem_foundTitles).1 h).2.1⟩

/-- The found titles are each found once. -/
theorem nodup_foundTitles (rows : List Row) : (c.foundTitles rows).Nodup :=
  nodup_eraseDups _

/-- The found titles grow by a row's text exactly when it is neither blank nor a title
    already. -/
theorem foundTitles_append_singleton (rows : List Row) (r : Row) :
    c.foundTitles (rows ++ [r]) =
      if Text.isBlankText (r.textIn c) = false ∧ r.textIn c ∉ c.laneTitles rows then
        c.foundTitles rows ++ [r.textIn c]
      else c.foundTitles rows := by
  have hsplit : c.foundTitles (rows ++ [r]) = c.foundTitles rows ++
      ((([r.textIn c].filter fun s => !Text.isBlankText s && !c.optionTitles.contains s).removeAll
        ((rows.map (·.textIn c)).filter fun s =>
          !Text.isBlankText s && !c.optionTitles.contains s)).eraseDups) := by
    rw [foundTitles, List.map_append, List.filter_append, List.eraseDups_append]
    rfl
  rw [hsplit]
  by_cases hblank : Text.isBlankText (r.textIn c) = true
  · simp [hblank]
  · by_cases hopt : r.textIn c ∈ c.optionTitles
    · simp [laneTitles, hopt]
    · have hfound : r.textIn c ∈ c.foundTitles rows ↔
          ∃ r' ∈ rows, r'.textIn c = r.textIn c := by
        simp [mem_foundTitles, hblank, hopt]
      by_cases hseen : ∃ r' ∈ rows, r'.textIn c = r.textIn c
      · simp [laneTitles, hblank, hopt, hfound.2 hseen, List.removeAll, hseen]
      · simp [laneTitles, hblank, hopt, mt hfound.1 hseen, List.removeAll, hseen,
          List.eraseDups_cons]

/-- A row whose text is not blank adds its text to the titles when no lane has it yet. -/
theorem laneTitles_append_singleton {rows : List Row} {r : Row}
    (hblank : Text.isBlankText (r.textIn c) = false) :
    c.laneTitles (rows ++ [r]) =
      if r.textIn c ∈ c.laneTitles rows then c.laneTitles rows
      else c.laneTitles rows ++ [r.textIn c] := by
  rw [laneTitles, foundTitles_append_singleton]
  split_ifs with h₁ h₂ h₂ <;> simp_all [laneTitles]

/-- A row whose text is blank adds no title. -/
theorem laneTitles_append_blank {rows : List Row} {r : Row}
    (hblank : Text.isBlankText (r.textIn c) = true) :
    c.laneTitles (rows ++ [r]) = c.laneTitles rows := by
  simp [laneTitles, foundTitles_append_singleton, hblank]

/-- Every row's text that is not blank has a lane. -/
theorem covered_items (rows : List Row) : Covered (c.laneTitles rows) (c.items rows) := by
  intro p hp
  obtain ⟨r, hr, rfl⟩ := List.mem_map.1 hp
  obtain ⟨hr, hblank⟩ := List.mem_filter.1 hr
  by_cases hopt : r.textIn c ∈ c.optionTitles
  · exact List.mem_append_left _ hopt
  · exact List.mem_append_right _ ((c.mem_foundTitles).2 ⟨⟨r, hr, rfl⟩, by simpa using hblank, hopt⟩)

/-- **One row of the fold** keeps the lanes the partition of the rows so far. -/
theorem laneStep_partition (rows : List Row) (r : Row) :
    laneStep c (distribute (c.laneTitles rows) (c.items rows), c.blankRows rows) r =
      (distribute (c.laneTitles (rows ++ [r])) (c.items (rows ++ [r])),
        c.blankRows (rows ++ [r])) := by
  unfold laneStep
  by_cases hblank : Text.isBlankText (r.textIn c) = true
  · simp [hblank, laneTitles_append_blank, items, blankRows]
  · have hitems : c.items (rows ++ [r]) = c.items rows ++ [(r.textIn c, r.key)] := by
      simp [items, hblank]
    have hblank' : Text.isBlankText (r.textIn c) = false := by simpa using hblank
    rw [if_neg hblank, addToLane_distribute _ _ (c.covered_items rows), hitems,
      laneTitles_append_singleton c hblank']
    simp [blankRows, hblank]

/-- **The fold over the rows** builds the partition of all of them. -/
theorem foldl_laneStep (pre rows : List Row) :
    rows.foldl (laneStep c) (distribute (c.laneTitles pre) (c.items pre), c.blankRows pre) =
      (distribute (c.laneTitles (pre ++ rows)) (c.items (pre ++ rows)),
        c.blankRows (pre ++ rows)) := by
  induction rows generalizing pre with
  | nil => simp
  | cons r rows ih =>
    rw [List.foldl_cons, laneStep_partition, ih]
    simp

end Column

namespace Table

/-- The lanes of a table grouped by one of its columns, as the partition of its rows. -/
theorem lanes_eq_distribute {t : Table} {g : Option Key} {c : Column}
    (hc : g.bind t.column? = some c) :
    t.lanes g = distribute (c.laneTitles t.rows) (c.items t.rows) ++
      (if c.blankRows t.rows ≠ [] ∨ c.laneTitles t.rows = [] then
        [⟨noValueTitle, c.blankRows t.rows, true⟩] else []) := by
  have hstart : (if c.kind == .select then
      (c.options.filter (!·.isEmpty)).map fun o => (⟨o, [], false⟩ : Lane) else []) =
      distribute (c.laneTitles []) (c.items []) := by
    have htitles : c.laneTitles [] = c.optionTitles := by
      simp [Column.laneTitles, Column.foundTitles]
    have hkind : (c.kind == .select) = decide (c.kind = .select) := by cases c.kind <;> rfl
    rw [show c.items [] = [] from rfl, htitles, distribute_no_items, Column.optionTitles, hkind]
    by_cases hk : c.kind = .select <;> simp [hk]
  have hfold : t.rows.foldl (laneStep c) (distribute (c.laneTitles []) (c.items []), []) =
      (distribute (c.laneTitles t.rows) (c.items t.rows), c.blankRows t.rows) := by
    exact c.foldl_laneStep [] t.rows
  have hnil : distribute (c.laneTitles t.rows) (c.items t.rows) = [] ↔ c.laneTitles t.rows = [] := by
    rw [← List.length_eq_zero_iff, length_distribute, List.length_eq_zero_iff]
  simp only [lanes, hc]
  rw [hstart]
  erw [hfold]
  by_cases hb : c.blankRows t.rows = [] <;> by_cases ht : c.laneTitles t.rows = [] <;>
    simp [hb, ht, hnil]

/-- **Lanes by a column.**  Grouped by a column of the table, the lanes are those of the
    option titles and the found titles, in order, each holding the rows that are not blank
    and whose text has its first lane there, and then the no-value lane of the blank rows
    when there is a blank row or no other lane. -/
theorem lanes_of_column {t : Table} {g : Option Key} {c : Column}
    (hc : g.bind t.column? = some c) :
    t.lanes g = (c.laneTitles t.rows).mapIdx (fun i s => ⟨s, c.laneRows t.rows i, false⟩) ++
      (if c.blankRows t.rows ≠ [] ∨ c.laneTitles t.rows = [] then
        [⟨noValueTitle, c.blankRows t.rows, true⟩] else []) := by
  have hrows (i : Nat) : ((c.items t.rows).filter fun p => (c.laneTitles t.rows).idxOf p.1 == i).map
      (·.2) = c.laneRows t.rows i := by
    simp [Column.items, Column.laneRows, List.filter_map, List.filter_filter, Function.comp_def]
  rw [lanes_eq_distribute hc, distribute_eq_mapIdx]
  simp only [hrows]

/-- Without a grouping column of the table, every row is in the one no-value lane. -/
theorem lanes_of_no_column {t : Table} {g : Option Key} (hc : g.bind t.column? = none) :
    t.lanes g = [⟨noValueTitle, t.rows.map (·.key), true⟩] := by
  simp [lanes, hc]

/-- The no-value lane holds the blank rows, and is missing only when there are none. -/
theorem flatMap_noValueLane (c : Column) (rows : List Row) :
    (if c.blankRows rows ≠ [] ∨ c.laneTitles rows = [] then
        [(⟨noValueTitle, c.blankRows rows, true⟩ : Lane)] else []).flatMap (·.rows) =
      c.blankRows rows := by
  split_ifs with h
  · simp
  · simp only [ne_eq, not_or, not_not] at h
    simp [h.1]

/-- **Every row is in exactly one lane**: the lanes hold the rows of the table, each row as
    often as the table holds it. -/
theorem lanes_rows_perm (t : Table) (g : Option Key) :
    ((t.lanes g).flatMap (·.rows)).Perm (t.rows.map (·.key)) := by
  cases hc : g.bind t.column? with
  | none => simp [lanes_of_no_column hc]
  | some c =>
    rw [lanes_eq_distribute hc, List.flatMap_append, flatMap_noValueLane]
    -- the lanes before the last hold the rows that are not blank, the last the blank ones
    have hitems : (c.items t.rows).map (·.2) =
        (t.rows.filter fun r => !Text.isBlankText (r.textIn c)).map (·.key) := by
      simp [Column.items, Function.comp_def]
    have hsplit := (List.filter_append_perm (fun r => !Text.isBlankText (r.textIn c))
      t.rows).map (·.key)
    rw [List.map_append] at hsplit
    simp only [Bool.not_not] at hsplit
    refine ((distribute_rows_perm (c.covered_items t.rows)).append_right _).trans ?_
    rw [hitems]
    exact hsplit

/-- **Each lane keeps the table's row order.** -/
theorem lanes_rows_sublist (t : Table) (g : Option Key) :
    ∀ l ∈ t.lanes g, l.rows.Sublist (t.rows.map (·.key)) := by
  intro l hl
  cases hc : g.bind t.column? with
  | none =>
    rw [lanes_of_no_column hc, List.mem_singleton] at hl
    rw [hl]
  | some c =>
    rw [lanes_eq_distribute hc, List.mem_append] at hl
    rcases hl with hl | hl
    · have hkept : ((t.rows.filter fun r => !Text.isBlankText (r.textIn c)).map (·.key)).Sublist
          (t.rows.map (·.key)) := List.filter_sublist.map _
      refine (distribute_rows_sublist l hl).trans ?_
      simpa [Column.items, Function.comp_def] using hkept
    · split_ifs at hl
      · rw [List.mem_singleton.1 hl]
        exact List.filter_sublist.map _
      · cases hl

end Table

/-- **Kanban lanes are a stable partition of the rows.**  Every row is in exactly one lane
    and each lane keeps the table's row order.  Without a grouping column of the table
    there is one no-value lane holding every row.  Grouped by a column, the lanes are
    those of the nonempty options of a select column in option order, then those of the
    other texts that are not blank in the order rows first show them, each once and none
    an option title, then the no-value lane of the blank rows, present when there is a
    blank row or no other lane; every row that is not blank is in the first lane of its
    text. -/
theorem lanes_stable_partition (t : Table) (g : Option Key) :
    ((t.lanes g).flatMap (·.rows)).Perm (t.rows.map (·.key)) ∧
    (∀ l ∈ t.lanes g, l.rows.Sublist (t.rows.map (·.key))) ∧
    (g.bind t.column? = none → t.lanes g = [⟨noValueTitle, t.rows.map (·.key), true⟩]) ∧
    ∀ c, g.bind t.column? = some c →
      t.lanes g = (c.laneTitles t.rows).mapIdx (fun i s => ⟨s, c.laneRows t.rows i, false⟩) ++
          (if c.blankRows t.rows ≠ [] ∨ c.laneTitles t.rows = [] then
            [⟨noValueTitle, c.blankRows t.rows, true⟩] else []) ∧
        (c.foundTitles t.rows).Nodup ∧
        ∀ s ∈ c.foundTitles t.rows, s ∉ c.optionTitles ∧ Text.isBlankText s = false :=
  ⟨t.lanes_rows_perm g, t.lanes_rows_sublist g, Table.lanes_of_no_column,
    fun c hc => ⟨Table.lanes_of_column hc, c.nodup_foundTitles t.rows,
      fun _ hs => c.foundTitles_fresh hs⟩⟩

/-- The tasks by status: the three options in order, the row without a status last. -/
example : (Sample.tasks.lanes (some ⟨"c:status"⟩)).map (fun l => (l.title, l.rows, l.noValue)) =
    [("Todo", [], false), ("Doing", [⟨"r:2"⟩], false), ("Done", [⟨"r:1"⟩], false),
      ("(No value)", [⟨"r:3"⟩], true)] := by
  decide

end Tabula
