import Tabula.Proofs.WellFormed
import Tabula.Model.Sample
/-! # Display orders

    The display sequence of a table sorts its columns by their display numbers, columns
    with equal numbers keeping their storage order.  Two edits set display numbers.

    Moving a column takes its key out of the display sequence and puts it back at the
    asked position, counted from one, a position past the end meaning the end
    (`Table.movedKeys`).  Every column is then numbered by the place of its key in that
    sequence (`Table.moveColumn_eq_renumber`).  Numbering the columns by a sequence of
    their distinct keys makes the numbers `0 .. n - 1`, one each
    (`Table.orders_renumber_perm`), and makes the display sequence that sequence
    (`Table.ordered_renumber`).

    Adding a column numbers it one above the highest number, in 64-bit arithmetic.  Below
    the greatest 64-bit number nothing wraps around, the new number is above every other
    (`Table.nextOrder_eq`, `Table.lt_nextOrder`), and the new column is shown last
    (`Table.ordered_append_greatest`).  At the greatest number the next one wraps around
    to the least, and the new column is shown first.

    * `moveColumn_reorders` and `addColumn_shows_last` state the two edits on a whole
      document, where the first table of the key changes and nothing else;
    * `addColumn_shows_first_past_max` is the wrap-around at the greatest number. -/

namespace Tabula

/-! ## Positions in a list of distinct items -/

section Positions

variable {α : Type} [BEq α] [LawfulBEq α]

/-- In a list without repeats, each item is found at its own position. -/
theorem map_idxOf_of_nodup {l : List α} (hl : l.Nodup) :
    l.map (l.idxOf ·) = List.range l.length := by
  apply List.ext_getElem (by simp)
  intro i h₁ h₂
  simp [hl.idxOf_getElem]

/-- A list without repeats comes in the order of the positions of its items. -/
theorem pairwise_idxOf_le {l : List α} (hl : l.Nodup) :
    l.Pairwise (fun a b => l.idxOf a ≤ l.idxOf b) := by
  rw [List.pairwise_iff_getElem]
  intro i j hi hj hij
  rw [hl.idxOf_getElem, hl.idxOf_getElem]
  exact Nat.le_of_lt hij

/-- The search for an item of a list finds its first position. -/
theorem idxOf?_eq_some_idxOf {l : List α} {a : α} (h : a ∈ l) :
    l.idxOf? a = some (l.idxOf a) := by
  obtain ⟨i, hi⟩ := Option.isSome_iff_exists.1 (List.isSome_idxOf?.2 h)
  rw [List.idxOf_eq_getD_idxOf?, hi, Option.getD_some]

end Positions

/-- Two tagged items that compare both ways carry one position. -/
theorem snd_eq_of_zipIdxLE {α : Type} {le : α → α → Bool} {a b : α × Nat}
    (hab : List.zipIdxLE le a b = true) (hba : List.zipIdxLE le b a = true) : a.2 = b.2 := by
  unfold List.zipIdxLE at hab hba
  split_ifs at hab hba
  simp only [decide_eq_true_eq] at hab hba
  omega

/-- **A greatest item stays last**: merge sort of a list followed by an item that every
    item of the list is strictly below puts that item last, after the sorted list. -/
theorem mergeSort_append_greatest {α : Type} {le : α → α → Bool}
    (trans : ∀ a b c, le a b → le b c → le a c) (total : ∀ a b, le a b || le b a)
    {l : List α} {x : α} (hx : ∀ c ∈ l, le c x = true ∧ le x c = false) :
    (l ++ [x]).mergeSort le = l.mergeSort le ++ [x] := by
  -- sort the items tagged with their positions, an order in which nothing ties
  have hsorted (m : List (α × Nat)) :
      (m.mergeSort (List.zipIdxLE le)).Pairwise (fun a b => List.zipIdxLE le a b = true) :=
    List.pairwise_mergeSort (List.zipIdxLE_trans trans) (List.zipIdxLE_total total) m
  have hright : (l.zipIdx.mergeSort (List.zipIdxLE le) ++ [(x, l.length)]).Perm
      (l ++ [x]).zipIdx := by
    rw [List.zipIdx_append, Nat.zero_add, List.zipIdx_singleton]
    exact (List.mergeSort_perm _ _).append_right _
  have htagged : (l ++ [x]).zipIdx.mergeSort (List.zipIdxLE le) =
      l.zipIdx.mergeSort (List.zipIdxLE le) ++ [(x, l.length)] := by
    refine ((List.mergeSort_perm _ _).trans hright.symm).eq_of_pairwise ?_ (hsorted _) ?_
    · -- two tagged items that compare both ways carry one position, so they are one item
      rintro ⟨a, i⟩ ⟨b, j⟩ ha hb hab hba
      obtain rfl : i = j := snd_eq_of_zipIdxLE hab hba
      obtain ⟨-, ha'⟩ := List.mem_zipIdx' (List.mem_mergeSort.1 ha)
      obtain ⟨-, hb'⟩ := List.mem_zipIdx' (hright.subset hb)
      rw [ha', hb']
    · rw [List.pairwise_append]
      refine ⟨hsorted _, List.pairwise_singleton _ _, fun a ha b hb => ?_⟩
      rw [List.mem_singleton] at hb
      subst hb
      have hmem : a.1 ∈ l := List.fst_mem_of_mem_zipIdx (List.mem_mergeSort.1 ha)
      simp [List.zipIdxLE, (hx a.1 hmem).1, (hx a.1 hmem).2]
  rw [← List.mergeSort_zipIdx, htagged, List.map_append, List.mergeSort_zipIdx]
  rfl

namespace Table

/-! ## The display sequence -/

theorem orderLE_trans (a b c : Column) :
    decide (a.order ≤ b.order) = true → decide (b.order ≤ c.order) = true →
      decide (a.order ≤ c.order) = true := by
  simp only [decide_eq_true_eq]
  exact Int.le_trans

theorem orderLE_total (a b : Column) :
    (decide (a.order ≤ b.order) || decide (b.order ≤ a.order)) = true := by
  simpa using Int.le_total a.order b.order

/-- The display sequence is sorted by display number. -/
theorem ordered_pairwise (t : Table) : t.ordered.Pairwise (fun a b => a.order ≤ b.order) := by
  have hsorted := List.pairwise_mergeSort orderLE_trans orderLE_total t.columns
  unfold ordered
  simpa only [decide_eq_true_eq] using hsorted

/-- The display sequence holds the columns. -/
theorem ordered_perm (t : Table) : t.ordered.Perm t.columns :=
  List.mergeSort_perm _ _

/-- The keys in display order are the column keys, rearranged. -/
theorem shownKeys_perm (t : Table) : (t.ordered.map (·.key)).Perm t.columnKeys :=
  t.ordered_perm.map _

/-- Taking a column's key out of the keys in display order leaves one key fewer. -/
theorem length_erase_shownKeys {t : Table} {k : Key} (hk : k ∈ t.columnKeys) :
    ((t.ordered.map (·.key)).erase k).length = t.columns.length - 1 := by
  rw [List.length_erase_of_mem (t.shownKeys_perm.mem_iff.2 hk), t.shownKeys_perm.length_eq]
  simp [columnKeys]

/-- A column numbered above every other is shown last, after the others as they were. -/
theorem ordered_append_greatest (t : Table) {c : Column}
    (hc : ∀ c' ∈ t.columns, c'.order < c.order) :
    { t with columns := t.columns ++ [c] }.ordered = t.ordered ++ [c] := by
  refine mergeSort_append_greatest orderLE_trans orderLE_total fun c' hc' => ?_
  have hlt := hc c' hc'
  exact ⟨by simpa using Int.le_of_lt hlt, by simpa using hlt⟩

/-! ## Moving a column -/

/-- Numbers every column by the position of its key in a sequence. -/
def renumber (t : Table) (seq : List Key) : Table :=
  { t with columns := t.columns.map fun c => { c with order := seq.idxOf c.key } }

/-- The display sequence of keys with `k` taken out and put back at position `p`, counted
    from one, a position past the end meaning the end. -/
def movedKeys (t : Table) (k : Key) (p : Nat) : List Key :=
  ((t.ordered.map (·.key)).erase k).insertIdx (min (p - 1) (t.columns.length - 1)) k

theorem columnKeys_renumber (t : Table) (seq : List Key) :
    (t.renumber seq).columnKeys = t.columnKeys := by
  simp [renumber, columnKeys]

/-- Renumbering changes the display numbers and nothing else. -/
theorem columns_renumber (t : Table) (seq : List Key) :
    List.Forall₂ (fun c c' => c' = { c with order := c'.order }) t.columns
      (t.renumber seq).columns := by
  simp only [renumber, List.forall₂_map_right_iff]
  exact List.forall₂_same.2 fun c _ => rfl

theorem order_of_mem_renumber {t : Table} {seq : List Key} {c : Column}
    (hc : c ∈ (t.renumber seq).columns) : c.order = seq.idxOf c.key := by
  obtain ⟨c₀, -, rfl⟩ := List.mem_map.1 hc
  rfl

/-- **Numbers by a sequence of the keys** are `0 .. n - 1`, one each. -/
theorem orders_renumber_perm {t : Table} {seq : List Key} (hseq : seq.Nodup)
    (hperm : t.columnKeys.Perm seq) :
    ((t.renumber seq).columns.map (·.order)).Perm
      ((List.range t.columns.length).map Int.ofNat) := by
  have horders : (t.renumber seq).columns.map (·.order) =
      (t.columnKeys.map (seq.idxOf ·)).map Int.ofNat := by
    simp [renumber, columnKeys]
  have hlen : t.columns.length = seq.length := by
    simpa [columnKeys] using hperm.length_eq
  rw [horders, hlen, ← map_idxOf_of_nodup hseq]
  exact (hperm.map _).map _

/-- **The display sequence of a renumbering** by a sequence of the distinct column keys is
    that sequence. -/
theorem ordered_renumber {t : Table} {seq : List Key} (hseq : seq.Nodup)
    (hperm : t.columnKeys.Perm seq) : (t.renumber seq).ordered.map (·.key) = seq := by
  have hkeys : ((t.renumber seq).ordered.map (·.key)).Perm seq := by
    have hshown := (t.renumber seq).shownKeys_perm
    rw [columnKeys_renumber] at hshown
    exact hshown.trans hperm
  -- a column shown before another has no greater number, so its key comes no later
  have hsorted : ((t.renumber seq).ordered.map (·.key)).Pairwise
      (fun a b => seq.idxOf a ≤ seq.idxOf b) := by
    rw [List.pairwise_map]
    refine (t.renumber seq).ordered_pairwise.imp_of_mem fun ha hb hab => ?_
    rw [order_of_mem_renumber ((t.renumber seq).ordered_perm.subset ha),
      order_of_mem_renumber ((t.renumber seq).ordered_perm.subset hb)] at hab
    exact Int.ofNat_le.1 hab
  refine hkeys.eq_of_pairwise (fun a b ha _ hab hba => ?_) hsorted (pairwise_idxOf_le hseq)
  exact (List.idxOf_inj (hkeys.subset ha)).1 (Nat.le_antisymm hab hba)

/-- The moved sequence holds the keys of the table, each once, when they are distinct. -/
theorem perm_movedKeys {t : Table} {k : Key} (p : Nat) (hk : k ∈ t.columnKeys) :
    t.columnKeys.Perm (t.movedKeys k p) := by
  have hput : (t.movedKeys k p).Perm (k :: (t.ordered.map (·.key)).erase k) :=
    List.perm_insertIdx _ _ (by rw [length_erase_shownKeys hk]; omega)
  have hback := List.perm_cons_erase (t.shownKeys_perm.mem_iff.2 hk)
  exact (hput.trans hback.symm |>.trans t.shownKeys_perm).symm

/-- **Moving a column** of a table with distinct column keys renumbers the columns by the
    moved sequence. -/
theorem moveColumn_eq_renumber {t : Table} {k : Key} (p : Nat) (hk : k ∈ t.columnKeys) :
    t.moveColumn k p = .ok (t.renumber (t.movedKeys k p)) := by
  have hmoved : ((t.ordered.map (·.key)).erase k).insertIdx
      (min (p - 1) (t.columns.length - 1)) k = t.movedKeys k p := rfl
  unfold moveColumn
  simp only [idxOf?_eq_some_idxOf (t.shownKeys_perm.mem_iff.2 hk), List.eraseIdx_idxOf_eq_erase,
    length_erase_shownKeys hk, hmoved]
  -- every column's key is in the moved sequence, so every column is renumbered
  congr 2
  refine List.map_congr_left fun c hc => ?_
  have hmem : c.key ∈ t.movedKeys k p :=
    (perm_movedKeys p hk).subset (List.mem_map_of_mem hc)
  simp [idxOf?_eq_some_idxOf hmem]

/-- Moving a column in place succeeds as the move does. -/
theorem moveColumnStep_run_of_moveColumn {t t' : Table} {k : Key} {p : Nat}
    (h : t.moveColumn k p = .ok t') : (moveColumnStep k p).run t = .ok () t' := by
  simp only [moveColumnStep, EStateM.run_bind, EStateM.run_get, h]
  rfl

end Table

/-- **Moving a column reorders exactly.**  In the first table of the key, whose column keys
    are distinct and hold the column, moving the column to a position succeeds.  The
    display numbers become `0 .. n - 1`, one each; the display sequence is the old one
    with the column taken out and put back at the position, counted from one and clamped
    to the end; the columns keep their storage order, keys, names, kinds and options;
    the table keeps its rows and widths; and no other table changes. -/
theorem moveColumn_reorders {d : Document} {tk wk ck : Key} {t : Table} (p : Nat)
    (hfind : d.findTable tk = some (wk, t)) (hnodup : t.columnKeys.Nodup)
    (hck : ck ∈ t.columnKeys) :
    ∃ t', d.applyEdit (.moveColumn tk ck p) = .ok (d.execute (.edit (.moveColumn tk ck p))) ∧
      Document.ReplacesFirstTable tk t t' d (d.execute (.edit (.moveColumn tk ck p))) ∧
      (t'.columns.map (·.order)).Perm ((List.range t.columns.length).map Int.ofNat) ∧
      t'.ordered.map (·.key) =
        ((t.ordered.map (·.key)).erase ck).insertIdx (min (p - 1) (t.columns.length - 1)) ck ∧
      List.Forall₂ (fun c c' => c' = { c with order := c'.order }) t.columns t'.columns ∧
      t'.key = t.key ∧ t'.name = t.name ∧ t'.rows = t.rows ∧ t'.widths = t.widths := by
  have hperm := Table.perm_movedKeys p hck
  have hseq : (t.movedKeys ck p).Nodup := hperm.nodup_iff.1 hnodup
  obtain ⟨hok, hrep⟩ := Document.execute_edit_of_withTable (.moveColumn tk ck p) rfl hfind
    (Table.moveColumnStep_run_of_moveColumn (Table.moveColumn_eq_renumber p hck))
  exact ⟨t.renumber (t.movedKeys ck p), hok, hrep,
    Table.orders_renumber_perm hseq hperm, Table.ordered_renumber hseq hperm,
    t.columns_renumber _, rfl, rfl, rfl, rfl⟩

/-- Moving `Priority`, the third column of `Tasks`, to the first position. -/
theorem moveColumn_reorders_priorityFirst :
    ∃ t', Document.sample.applyEdit (.moveColumn ⟨"t:tasks"⟩ ⟨"c:priority"⟩ 1) =
        .ok (Document.sample.execute (.edit (.moveColumn ⟨"t:tasks"⟩ ⟨"c:priority"⟩ 1))) ∧
      Document.ReplacesFirstTable ⟨"t:tasks"⟩ Sample.tasks t' Document.sample
        (Document.sample.execute (.edit (.moveColumn ⟨"t:tasks"⟩ ⟨"c:priority"⟩ 1))) ∧
      (t'.columns.map (·.order)).Perm ((List.range 3).map Int.ofNat) ∧
      t'.ordered.map (·.key) =
        ((Sample.tasks.ordered.map (·.key)).erase ⟨"c:priority"⟩).insertIdx (min (1 - 1) (3 - 1))
          ⟨"c:priority"⟩ ∧
      List.Forall₂ (fun c c' => c' = { c with order := c'.order }) Sample.tasks.columns
        t'.columns ∧
      t'.key = Sample.tasks.key ∧ t'.name = Sample.tasks.name ∧ t'.rows = Sample.tasks.rows ∧
      t'.widths = Sample.tasks.widths :=
  moveColumn_reorders 1 rfl (by decide) (by decide)

/-! ## Adding a column -/

/-- The greatest display number a snapshot can hold, the greatest signed 64-bit number. -/
def maxOrder : Int := 2 ^ 63 - 1

/-- The least display number a snapshot can hold, the least signed 64-bit number. -/
def minOrder : Int := -(2 ^ 63)

/-- Wrapping keeps a number of 64 bits as it is. -/
theorem wrap64_of_le {x : Int} (h1 : minOrder ≤ x) (h2 : x ≤ maxOrder) : Table.wrap64 x = x := by
  unfold Table.wrap64
  simp only [minOrder, maxOrder] at h1 h2
  apply Int.bmod_eq_of_le_mul_two <;> simp <;> omega

/-- One above the greatest 64-bit number wraps around to the least. -/
theorem wrap64_maxOrder_add_one : Table.wrap64 (maxOrder + 1) = minOrder := by
  decide

namespace Table

/-- The column an added column becomes: one above the highest display number. -/
def addedColumn (t : Table) (k : Key) (name : String) (kind : ColumnKind)
    (options : List String) : Column :=
  ⟨k, name, kind, options, t.nextOrder⟩

/-- **Below the greatest 64-bit number** the next display number is one above the highest,
    with nothing wrapped around, and `0` for a table without columns. -/
theorem nextOrder_eq {t : Table}
    (hfit : ∀ c ∈ t.columns, minOrder ≤ c.order ∧ c.order < maxOrder) :
    t.nextOrder = ((t.columns.map (·.order)).max?.map (· + 1)).getD 0 := by
  unfold nextOrder
  split
  · rename_i hnil
    rw [hnil]
    rfl
  · rename_i o os hcons
    -- the highest number is a number of a column, so it fits below the greatest
    have hmax : (o :: os).max? = some (os.foldl max o) := List.max?_cons'
    obtain ⟨c, hc, hco⟩ := List.mem_map.1 (hcons ▸ List.max?_mem hmax)
    have hbounds := hfit c hc
    rw [hcons, hmax, wrap64_of_le (by omega) (by omega)]
    rfl

/-- Below the greatest 64-bit number, every display number is below the next one. -/
theorem lt_nextOrder {t : Table}
    (hfit : ∀ c ∈ t.columns, minOrder ≤ c.order ∧ c.order < maxOrder) :
    ∀ c ∈ t.columns, c.order < t.nextOrder := by
  intro c hc
  rw [nextOrder_eq hfit]
  cases hm : (t.columns.map (·.order)).max? with
  | none => simp_all
  | some m =>
    have hle : c.order ≤ m := (List.max?_le_iff hm).1 (le_refl m) c.order (List.mem_map_of_mem hc)
    simp only [Option.map_some, Option.getD_some]
    omega

/-- Below the greatest 64-bit number, the next display number is a 64-bit number. -/
theorem nextOrder_fits {t : Table}
    (hfit : ∀ c ∈ t.columns, minOrder ≤ c.order ∧ c.order < maxOrder) :
    minOrder ≤ t.nextOrder ∧ t.nextOrder ≤ maxOrder := by
  rw [nextOrder_eq hfit]
  cases hm : (t.columns.map (·.order)).max? with
  | none => simp [minOrder, maxOrder]
  | some m =>
    obtain ⟨c, hc, rfl⟩ := List.mem_map.1 (List.max?_mem hm)
    have hbounds := hfit c hc
    simp only [Option.map_some, Option.getD_some]
    omega

/-- Adding a column of a key the table does not have succeeds in place. -/
theorem addColumnStep_run_of_free {t : Table} {k : Key} (name : String) (kind : ColumnKind)
    (options : List String) (hfree : t.hasColumn k = false) :
    (addColumnStep k name kind options).run t =
      .ok () { t with columns := t.columns ++ [t.addedColumn k name kind options] } := by
  simp only [addColumnStep, EStateM.run_bind, EStateM.run_get, hfree]
  rfl

end Table

/-- **Adding a column below the greatest 64-bit number shows it last.**  In the first table
    of the key, whose display numbers are 64-bit numbers below the greatest, adding a
    column of a new key succeeds and changes that table alone.  The new number is one
    above the highest, computed without wrapping around and itself a 64-bit number; it is
    above every other number; the new column is shown last, after the others as they were;
    and distinct numbers stay distinct. -/
theorem addColumn_shows_last {d : Document} {tk wk ck : Key} {t : Table} (name : String)
    (kind : ColumnKind) (options : List String)
    (hfind : d.findTable tk = some (wk, t)) (hfree : t.hasColumn ck = false)
    (hfit : ∀ c ∈ t.columns, minOrder ≤ c.order ∧ c.order < maxOrder) :
    d.applyEdit (.addColumn tk ck name kind options) =
        .ok (d.execute (.edit (.addColumn tk ck name kind options))) ∧
      Document.ReplacesFirstTable tk t
        { t with columns := t.columns ++ [t.addedColumn ck name kind options] } d
        (d.execute (.edit (.addColumn tk ck name kind options))) ∧
      t.nextOrder = ((t.columns.map (·.order)).max?.map (· + 1)).getD 0 ∧
      (minOrder ≤ t.nextOrder ∧ t.nextOrder ≤ maxOrder) ∧
      (∀ c ∈ t.columns, c.order < t.nextOrder) ∧
      { t with columns := t.columns ++ [t.addedColumn ck name kind options] }.ordered =
        t.ordered ++ [t.addedColumn ck name kind options] ∧
      ((t.columns.map (·.order)).Nodup →
        ((t.columns ++ [t.addedColumn ck name kind options]).map (·.order)).Nodup) := by
  have habove := Table.lt_nextOrder hfit
  obtain ⟨hok, hrep⟩ := Document.execute_edit_of_withTable (.addColumn tk ck name kind options) rfl
    hfind (Table.addColumnStep_run_of_free name kind options hfree)
  refine ⟨hok, hrep, Table.nextOrder_eq hfit, Table.nextOrder_fits hfit,
    habove, t.ordered_append_greatest habove, fun hnodup => ?_⟩
  -- the new number is none of the old ones
  rw [List.map_append, List.nodup_append]
  refine ⟨hnodup, List.nodup_singleton _, fun a ha b hb => ?_⟩
  obtain ⟨c, hc, rfl⟩ := List.mem_map.1 ha
  rw [List.map_singleton, List.mem_singleton] at hb
  subst hb
  exact Int.ne_of_lt (habove c hc)

/-- Adding a due-date column to `Tasks`, whose numbers are `0`, `1` and `2`. -/
theorem addColumn_shows_last_tasksDue :
    Document.sample.findTable ⟨"t:tasks"⟩ = some (⟨"w:alpha"⟩, Sample.tasks) ∧
      Sample.tasks.hasColumn ⟨"c:due"⟩ = false ∧
      (∀ c ∈ Sample.tasks.columns, minOrder ≤ c.order ∧ c.order < maxOrder) ∧
      { Sample.tasks with
          columns :=
            Sample.tasks.columns ++ [Sample.tasks.addedColumn ⟨"c:due"⟩ "Due" .date []] }.ordered =
        Sample.tasks.ordered ++ [Sample.tasks.addedColumn ⟨"c:due"⟩ "Due" .date []] := by
  have hfind : Document.sample.findTable ⟨"t:tasks"⟩ = some (⟨"w:alpha"⟩, Sample.tasks) := rfl
  have hfree : Sample.tasks.hasColumn ⟨"c:due"⟩ = false := by decide
  have hfit : ∀ c ∈ Sample.tasks.columns, minOrder ≤ c.order ∧ c.order < maxOrder := by decide
  exact ⟨hfind, hfree, hfit, (addColumn_shows_last "Due" .date [] hfind hfree hfit).2.2.2.2.2.1⟩

/-- A table whose one column has the greatest display number. -/
def atMaxOrder : Table :=
  { key := ⟨"t"⟩, name := "T", columns := [⟨⟨"c"⟩, "C", .text, [], maxOrder⟩], rows := [],
    widths := [] }

/-- One workspace holding `atMaxOrder`. -/
def atMaxOrderDocument : Document := { workspaces := [⟨⟨"w"⟩, "W", [atMaxOrder]⟩] }

/-- **At the greatest 64-bit number the next one wraps around**: a column added beside a
    column numbered `2^63 - 1` is numbered `-2^63`, below it, and is shown first. -/
theorem addColumn_shows_first_past_max :
    ∃ t', Document.ReplacesFirstTable ⟨"t"⟩ atMaxOrder t' atMaxOrderDocument
        (atMaxOrderDocument.execute (.edit (.addColumn ⟨"t"⟩ ⟨"d"⟩ "D" .text []))) ∧
      t'.columns.map (·.order) = [maxOrder, minOrder] ∧
      t'.ordered.map (·.key) = [⟨"d"⟩, ⟨"c"⟩] := by
  have hfind : atMaxOrderDocument.findTable ⟨"t"⟩ = some (⟨"w"⟩, atMaxOrder) := rfl
  have hfree : atMaxOrder.hasColumn ⟨"d"⟩ = false := by decide
  have hadded : atMaxOrder.addedColumn ⟨"d"⟩ "D" .text [] = ⟨⟨"d"⟩, "D", .text, [], minOrder⟩ := by
    rw [Table.addedColumn, show atMaxOrder.nextOrder = minOrder from wrap64_maxOrder_add_one]
  obtain ⟨-, hrep⟩ := Document.execute_edit_of_withTable (.addColumn ⟨"t"⟩ ⟨"d"⟩ "D" .text []) rfl
    hfind (Table.addColumnStep_run_of_free "D" .text [] hfree)
  refine ⟨_, hrep, ?_, ?_⟩
  · rw [hadded]
    rfl
  · rw [hadded]
    simp [Table.ordered, atMaxOrder, List.mergeSort, maxOrder, minOrder]

end Tabula
