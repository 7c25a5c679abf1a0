import Tabula.Proofs.Keys
/-! # The navigation points at what exists

    `NavValid`: a current workspace is found by its key, and a current table needs a
    current workspace that holds it, so the current table resolves
    (`navValid_iff_resolves`).  Repairing makes the navigation valid and leaves a valid one
    alone, so the repaired documents are the valid ones (`repair_eq_self_iff`).

    Every action keeps the navigation valid in a document whose keys are distinct
    (`NavValid.execute`).  Going to a path needs distinct workspace keys: a path names a
    workspace by position or name, and its key must find that same workspace again.
    Removing a table needs distinct table keys: the table is removed from the first
    workspace holding it, and the fallback table is taken from there.  Hence a run keeps
    the navigation valid as long as keys stay distinct, which `UniqueKeys.run` gives for
    runs whose added workspaces bring fresh tables (`navValid_run`); adding a workspace
    that brings a taken table key breaks it (`navValid_run_fails_of_shared_table_key`). -/

namespace Tabula

theorem atPosition?_mem {α : Type} {xs : List α} {n : Nat} {x : α}
    (h : atPosition? xs n = some x) : x ∈ xs := by
  unfold atPosition? at h
  split at h
  · cases h
  · exact List.mem_of_getElem? h

theorem findWorkspace?_mem {ws : List Workspace} {token : String} {w : Workspace}
    (h : findWorkspace? ws token = some w) : w ∈ ws := by
  unfold findWorkspace? at h
  split at h
  · obtain ⟨n, -, hn⟩ := Option.bind_eq_some_iff.1 h
    exact atPosition?_mem hn
  · exact List.mem_of_find?_eq_some h

theorem findTableIn?_mem {w : Workspace} {token : String} {t : Table}
    (h : findTableIn? w token = some t) : t ∈ w.tables := by
  unfold findTableIn? at h
  split at h
  · obtain ⟨n, -, hn⟩ := Option.bind_eq_some_iff.1 h
    exact atPosition?_mem hn
  · exact List.mem_of_find?_eq_some h

namespace Document

@[simp] theorem workspace?_withNav (d : Document) (n : Navigation) (k : Key) :
    (d.withNav n).workspace? k = d.workspace? k := rfl

@[simp] theorem workspace?_clearRemovedGroupBy (d : Document) (k : Key) :
    d.clearRemovedGroupBy.workspace? k = d.workspace? k := by
  simp [workspace?]

/-- The navigation points at what exists: a current workspace is found by its key, and a
    current table needs a current workspace, which holds it. -/
structure NavValid (d : Document) : Prop where
  workspace : ∀ k, d.nav.workspace = some k → (d.workspace? k).isSome
  table : ∀ t, d.nav.table = some t →
    ∃ k w, d.nav.workspace = some k ∧ d.workspace? k = some w ∧ w.hasTable t = true

/-- A navigation is valid exactly when its current workspace and its current table
    resolve whenever they are set. -/
theorem navValid_iff_resolves (d : Document) :
    d.NavValid ↔ (d.nav.workspace.isSome → d.currentWorkspace.isSome) ∧
      (d.nav.table.isSome → d.currentTable.isSome) := by
  have htable (w : Workspace) (t : Key) : (w.table? t).isSome = w.hasTable t :=
    Bool.eq_iff_iff.2 (by simp [Workspace.table?, Workspace.hasTable, List.find?_isSome])
  constructor
  · rintro ⟨hw, ht⟩
    refine ⟨fun hs => ?_, fun hs => ?_⟩
    · obtain ⟨k, hk⟩ := Option.isSome_iff_exists.1 hs
      simpa [currentWorkspace, hk] using hw k hk
    · obtain ⟨t, htk⟩ := Option.isSome_iff_exists.1 hs
      obtain ⟨k, w, hk, hwk, hwt⟩ := ht t htk
      simp [currentTable, currentWorkspace, hk, hwk, htk, htable, hwt]
  · rintro ⟨hw, ht⟩
    refine ⟨fun k hk => by simpa [currentWorkspace, hk] using hw (by simp [hk]), fun t htk => ?_⟩
    have hcur := ht (by simp [htk])
    cases hk : d.nav.workspace with
    | none => simp [currentTable, currentWorkspace, hk] at hcur
    | some k =>
        cases hwk : d.workspace? k with
        | none => simp [currentTable, currentWorkspace, hk, hwk] at hcur
        | some w =>
            refine ⟨k, w, rfl, hwk, ?_⟩
            simpa [currentTable, currentWorkspace, hk, hwk, htk, htable] using hcur

instance (d : Document) : Decidable d.NavValid :=
  decidable_of_iff _ (navValid_iff_resolves d).symm

/-- In a valid navigation a set table is the current table of the document. -/
theorem NavValid.currentTable_isSome {d : Document} (hv : d.NavValid)
    (ht : d.nav.table.isSome) : d.currentTable.isSome :=
  ((navValid_iff_resolves d).1 hv).2 ht

variable {d d' : Document}

/-- A navigation at a found workspace, with no table or a table of that workspace. -/
theorem navValid_of_at {k : Key} {w : Workspace} (hk : d.nav.workspace = some k)
    (hw : d.workspace? k = some w) (ht : ∀ t, d.nav.table = some t → w.hasTable t = true) :
    d.NavValid where
  workspace k' hk' := by
    rw [hk, Option.some.injEq] at hk'
    simp [← hk', hw]
  table t htk := ⟨k, w, hk, hw, ht t htk⟩

/-- A navigation at a found workspace with no table. -/
theorem navValid_of_at_noTable {k : Key} {w : Workspace} (hk : d.nav.workspace = some k)
    (hw : d.workspace? k = some w) (ht : d.nav.table = none) : d.NavValid :=
  navValid_of_at hk hw fun t h => absurd (h.symm.trans ht) (Option.some_ne_none t)

/-- A navigation at no place. -/
theorem navValid_of_top (hk : d.nav.workspace = none) (ht : d.nav.table = none) :
    d.NavValid where
  workspace k h := by simp [hk] at h
  table t h := by simp [ht] at h

/-- A valid navigation is at no place, or at a found workspace with no table or one of
    its tables. -/
theorem NavValid.cases (hv : d.NavValid) :
    (d.nav.workspace = none ∧ d.nav.table = none) ∨
      ∃ k w, d.nav.workspace = some k ∧ d.workspace? k = some w ∧
        ∀ t, d.nav.table = some t → w.hasTable t = true := by
  cases hk : d.nav.workspace with
  | none =>
      cases ht : d.nav.table with
      | none => exact .inl ⟨rfl, rfl⟩
      | some t =>
          obtain ⟨k, -, hk', -⟩ := hv.table t ht
          simp [hk] at hk'
  | some k =>
      obtain ⟨w, hw⟩ := Option.isSome_iff_exists.1 (hv.workspace k hk)
      refine .inr ⟨k, w, rfl, hw, fun t ht => ?_⟩
      obtain ⟨k', w', hk', hw', hwt⟩ := hv.table t ht
      rw [hk, Option.some.injEq] at hk'
      subst hk'
      rw [hw, Option.some.injEq] at hw'
      exact hw' ▸ hwt

/-- **Frame lemma**: a change that keeps the place and after which the current workspace
    is found again, holding the current table, keeps the navigation valid. -/
theorem NavValid.of_lookup (hv : d.NavValid) (hw : d'.nav.workspace = d.nav.workspace)
    (ht : d'.nav.table = d.nav.table)
    (hlook : ∀ k w, d.nav.workspace = some k → d.workspace? k = some w →
      ∃ w', d'.workspace? k = some w' ∧
        ∀ t, d.nav.table = some t → w.hasTable t = true → w'.hasTable t = true) :
    d'.NavValid := by
  rcases hv.cases with ⟨hk, htn⟩ | ⟨k, w, hk, hwk, hwt⟩
  · exact navValid_of_top (hw.trans hk) (ht.trans htn)
  · obtain ⟨w', hw', hkeep⟩ := hlook k w hk hwk
    exact navValid_of_at (hw.trans hk) hw' fun t h =>
      hkeep t (ht.symm.trans h) (hwt t (ht.symm.trans h))

/-- A change of nothing validity reads keeps the navigation valid. -/
theorem NavValid.of_eq (hv : d.NavValid) (hws : d'.workspaces = d.workspaces)
    (hw : d'.nav.workspace = d.nav.workspace) (ht : d'.nav.table = d.nav.table) :
    d'.NavValid :=
  hv.of_lookup hw ht fun k w _ hwk =>
    ⟨w, by simpa only [workspace?, hws] using hwk, fun _ _ h => h⟩

/-! ## Repairing

    Reading a snapshot repairs the navigation; the repaired documents are exactly those
    whose navigation is valid. -/

/-- Repairing keeps the navigation, forgets the table, or forgets the workspace. -/
theorem repair_cases (d : Document) :
    d.repair = d ∨ d.repair = d.withNav (d.nav.selectTable none) ∨
      d.repair = d.withNav (d.nav.selectWorkspace none) := by
  cases hk : d.nav.workspace with
  | none => cases ht : d.nav.table <;> simp [repair, hk, ht]
  | some k =>
      cases hw : d.workspace? k with
      | none => simp [repair, hk, hw]
      | some w =>
          cases ht : d.nav.table with
          | none => simp [repair, hk, hw, ht]
          | some t => by_cases hwt : w.hasTable t <;> simp [repair, hk, hw, ht, hwt]

@[simp] theorem repair_workspaces (d : Document) : d.repair.workspaces = d.workspaces := by
  rcases repair_cases d with h | h | h <;> rw [h] <;> rfl

/-- Repairing gives a valid navigation. -/
theorem navValid_repair (d : Document) : d.repair.NavValid := by
  cases hk : d.nav.workspace with
  | none =>
      cases ht : d.nav.table with
      | none => simpa [repair, hk, ht] using navValid_of_top hk ht
      | some t =>
          simp only [repair, hk, ht, Option.isSome_some, if_true]
          exact navValid_of_top hk rfl
  | some k =>
      cases hw : d.workspace? k with
      | none =>
          simp only [repair, hk, hw]
          exact navValid_of_top rfl rfl
      | some w =>
          cases ht : d.nav.table with
          | none => simpa [repair, hk, hw, ht] using navValid_of_at_noTable hk hw ht
          | some t =>
              by_cases hwt : w.hasTable t
              · simp only [repair, hk, hw, ht, hwt, if_true]
                exact navValid_of_at hk hw fun t' h => by
                  rw [ht, Option.some.injEq] at h
                  exact h ▸ hwt
              · simp only [repair, hk, hw, ht, hwt, if_false, Bool.false_eq_true]
                exact navValid_of_at_noTable hk hw rfl

/-- Repairing leaves a valid navigation as it is. -/
theorem repair_of_navValid (hv : d.NavValid) : d.repair = d := by
  rcases hv.cases with ⟨hk, ht⟩ | ⟨k, w, hk, hw, hwt⟩
  · simp [repair, hk, ht]
  · cases ht : d.nav.table with
    | none => simp [repair, hk, hw, ht]
    | some t => simp [repair, hk, hw, ht, hwt t ht]

/-- The documents that repairing leaves alone are those with a valid navigation. -/
theorem repair_eq_self_iff : d.repair = d ↔ d.NavValid :=
  ⟨fun h => h ▸ navValid_repair d, repair_of_navValid⟩

@[simp] theorem repair_repair (d : Document) : d.repair.repair = d.repair :=
  repair_of_navValid (navValid_repair d)

/-! ## Moving the navigation -/

/-- Going up one level keeps the navigation valid: the table is forgotten before its
    workspace. -/
theorem NavValid.up {n : Navigation} (hv : (d.withNav n).NavValid) :
    (d.withNav n.up).NavValid := by
  unfold Navigation.up
  split_ifs with hcol hrow htab hws
  · exact hv.of_eq rfl rfl rfl
  · exact hv.of_eq rfl rfl rfl
  · rcases hv.cases with ⟨hk, -⟩ | ⟨k, w, hk, hwk, -⟩
    · exact navValid_of_top hk rfl
    · exact navValid_of_at_noTable hk hwk rfl
  · exact navValid_of_top rfl (by simpa using htab)
  · exact hv

theorem NavValid.upBy {n : Navigation} (hv : (d.withNav n).NavValid) (levels : Nat) :
    (d.withNav (n.upBy levels)).NavValid := by
  induction levels generalizing n with
  | zero => exact hv
  | succ levels ih => exact ih hv.up

theorem NavValid.truncate (hv : d.NavValid) (l : Level) :
    (d.withNav (d.nav.truncate l)).NavValid := by
  cases l with
  | workspace =>
      rcases hv.cases with ⟨hk, -⟩ | ⟨k, w, hk, hwk, -⟩
      · exact navValid_of_top hk rfl
      · exact navValid_of_at_noTable hk hwk rfl
  | table | row | column => exact hv.of_eq rfl rfl rfl

/-- Choosing a found workspace and, optionally, one of its tables. -/
theorem navValid_select {k : Key} {w : Workspace} (hw : d.workspace? k = some w)
    {t : Option Key} (ht : ∀ t', t = some t' → w.hasTable t' = true) (n : Navigation) :
    (d.withNav ((n.selectWorkspace (some k)).selectTable t)).NavValid :=
  navValid_of_at rfl hw ht

/-- Resolving an absolute path leads to a valid navigation, whatever the navigation was:
    a path names a workspace, then possibly a table of it, or a table of the current
    workspace. -/
theorem navValid_of_resolveAbsolute (hu : d.workspaceKeys.Nodup)
    {segments : List String} {n : Navigation}
    (h : resolveAbsolute d.workspaces d.nav segments = some n) : (d.withNav n).NavValid := by
  unfold resolveAbsolute at h
  split at h
  · -- one token while a workspace is current: a workspace by name, else a table of it
    rename_i token current hcur
    split at h
    · rename_i w hw
      cases h
      exact navValid_of_at_noTable rfl (workspace?_eq_of_mem hu (List.mem_of_find?_eq_some hw)) rfl
    · obtain ⟨cw, hcw, h⟩ := Option.bind_eq_some_iff.1 h
      obtain ⟨t, ht, h⟩ := Option.bind_eq_some_iff.1 h
      cases h
      refine navValid_of_at hcur hcw fun t' h' => ?_
      cases h'
      exact Workspace.hasTable_of_mem (findTableIn?_mem ht)
  · cases h
  · -- a workspace, then optionally a table of it and the cursor
    obtain ⟨w, hw, h⟩ := Option.bind_eq_some_iff.1 h
    have hwd : d.workspace? w.key = some w := workspace?_eq_of_mem hu (findWorkspace?_mem hw)
    split at h
    · cases h
      exact navValid_of_at_noTable rfl hwd rfl
    · split at h
      · cases h
        exact navValid_of_at_noTable rfl hwd rfl
      · rename_i t ht
        cases h
        refine navValid_of_at rfl hwd fun t' h' => ?_
        cases h'
        exact Workspace.hasTable_of_mem (findTableIn?_mem ht)

/-- Resolving a relative path leads to a valid navigation: it moves the cursor, or
    chooses a table of the current workspace. -/
theorem NavValid.of_resolveRelative (hv : d.NavValid) {target : Target} {n : Navigation}
    (h : resolveRelative d.workspaces d.nav target = some n) : (d.withNav n).NavValid := by
  simp only [resolveRelative, Option.bind_eq_bind, Option.bind_eq_some_iff] at h
  obtain ⟨current, hcur, w, hw, h⟩ := h
  -- a table chosen in the current workspace
  have hpick {t : Table} (ht : t ∈ w.tables) (t' : Key) (h' : some t.key = some t') :
      w.hasTable t' = true := by
    cases h'
    exact Workspace.hasTable_of_mem ht
  cases target with
  | one token =>
      dsimp only at h
      split at h
      · obtain ⟨r, -, h⟩ := Option.bind_eq_some_iff.1 h
        cases h
        exact hv.of_eq rfl rfl rfl
      · obtain ⟨t, ht, h⟩ := Option.bind_eq_some_iff.1 h
        cases h
        exact navValid_of_at hcur hw (hpick (findTableIn?_mem ht))
  | two row col =>
      simp only [Option.bind_eq_some_iff] at h
      obtain ⟨r, -, c, -, h⟩ := h
      cases h
      exact hv.of_eq rfl rfl rfl
  | columnOnly col =>
      simp only [Option.bind_eq_some_iff] at h
      obtain ⟨c, -, h⟩ := h
      cases h
      exact hv.of_eq rfl rfl rfl
  | three table row col =>
      simp only [Option.bind_eq_some_iff] at h
      obtain ⟨t, ht, h⟩ := h
      cases h
      exact navValid_of_at hcur hw (hpick (findTableIn?_mem ht))

/-- Going to a path keeps the navigation valid when workspace keys are distinct. -/
theorem NavValid.navigate (hv : d.NavValid) (hu : d.workspaceKeys.Nodup) (p : Path) :
    (d.navigate p).NavValid := by
  rcases navigate_cases d p with ⟨n, hn, h⟩ | h
  · rw [h]
    cases p with
    | absolute segments => exact navValid_of_resolveAbsolute hu hn
    | ascend levels =>
        cases hn
        exact (hv.of_eq rfl rfl rfl).upBy levels
    | descend target => exact hv.of_resolveRelative hn
  · rw [h]
    exact hv

/-! ## Edits -/

theorem Workspace.hasTable_of_head? {w : Workspace} {t : Key}
    (h : w.tables.head?.map (·.key) = some t) : w.hasTable t = true := by
  obtain ⟨z, hz, rfl⟩ := Option.map_eq_some_iff.1 h
  exact Workspace.hasTable_of_mem (List.mem_of_mem_head? hz)

/-- Lookups after changing one workspace in place, keeping its key. -/
theorem workspace?_borrow {β : Type} {k : Key} {f : Workspace → β × Workspace} {b : β}
    {ws : List Workspace} (h : borrowFirst (·.key == k) f d.workspaces = some (b, ws))
    (hkey : ∀ w, (f w).2.key = w.key) (k' : Key) :
    ({ d with workspaces := ws } : Document).workspace? k' =
      (d.workspace? k').map fun w => if k' = k then (f w).2 else w :=
  find?_borrowFirst hkey k' h

/-- Changing one workspace in place, keeping its key and the current table, keeps the
    navigation valid. -/
theorem NavValid.borrow {β : Type} {k : Key} {f : Workspace → β × Workspace} {b : β}
    {ws : List Workspace} (hv : d.NavValid)
    (h : borrowFirst (·.key == k) f d.workspaces = some (b, ws))
    (hkey : ∀ w, (f w).2.key = w.key)
    (hkeep : ∀ w t, d.nav.table = some t → w.hasTable t = true → (f w).2.hasTable t = true) :
    ({ d with workspaces := ws } : Document).NavValid := by
  refine hv.of_lookup rfl rfl fun k' w _ hw =>
    ⟨if k' = k then (f w).2 else w, by rw [workspace?_borrow h hkey, hw]; rfl, fun t ht hwt => ?_⟩
  split
  · exact hkeep w t ht hwt
  · exact hwt

/-- A table step that keeps the key of its table keeps the navigation valid. -/
theorem NavValid.withTable {α : Type} {k : Key} {act : EStateM EditError Table α} {a : α}
    (hv : d.NavValid) (hkey : ∀ t t', act.run t = .ok a t' → t'.key = t.key)
    (h : (withTable k act).run d = .ok a d') : d'.NavValid := by
  obtain ⟨hnav, -, hws⟩ := withTable_run_ok h
  refine hv.of_lookup (by rw [hnav]) (by rw [hnav]) fun k' w _ hw => ?_
  obtain ⟨w', hw', hrel⟩ := find?_of_forall₂ (fun x y hxy => by simp only [hxy.1]) hws hw
  refine ⟨w', hw', fun t _ ht => ?_⟩
  have hsame : w'.tableKeys = w.tableKeys := (TablesChanged.keys hkey hrel).2
  rw [Workspace.hasTable_iff_mem] at ht ⊢
  rwa [hsame]

/-- Adding a table keeps the navigation valid, also when it becomes the current table. -/
theorem NavValid.addTable (hv : d.NavValid) {wk : Key} {t : Table} {ws : List Workspace}
    (h : borrowFirst (·.key == wk) (fun w => ((), { w with tables := w.tables ++ [t] }))
      d.workspaces = some ((), ws)) :
    (if d.nav.workspace = some wk then
        ({ d with workspaces := ws } : Document).withNav (d.nav.selectTable (some t.key))
      else { d with workspaces := ws }).NavValid := by
  split
  · rename_i hk
    obtain ⟨w, hw⟩ := Option.isSome_iff_exists.1 (hv.workspace wk hk)
    refine navValid_of_at hk (w := { w with tables := w.tables ++ [t] }) ?_ fun t' h' => ?_
    · rw [workspace?_withNav, workspace?_borrow h (fun _ => rfl), hw]
      simp
    · cases h'
      simp [Workspace.hasTable]
  · exact hv.borrow h (fun _ => rfl) fun w t' _ ht' => by simp_all [Workspace.hasTable]

/-- Removing a table keeps the navigation valid when table keys are distinct: the
    current table, if removed, is replaced by the first table left in its workspace,
    which is the workspace it was removed from. -/
theorem NavValid.removeTable (hv : d.NavValid) (hu : d.tableKeys.Nodup) {k owner : Key}
    {t : Table} (hfind : d.findTable k = some (owner, t)) {fallback : Option Key}
    {ws : List Workspace}
    (h : borrowFirst (·.key == owner) (fun w =>
        ((w.tables.filter (·.key != k)).head?.map (·.key),
          { w with tables := w.tables.filter (·.key != k) })) d.workspaces = some (fallback, ws)) :
    (if d.nav.table = some k then
        ({ d with workspaces := ws } : Document).withNav (d.nav.selectTable fallback)
      else { d with workspaces := ws }).NavValid := by
  split
  · rename_i htk
    obtain ⟨cur, w, hcur, hw, hwk⟩ := hv.table k htk
    -- the table lies in one workspace only, so it is removed from the current one
    obtain ⟨y, hy, hyo, hky⟩ := findTable_eq_some hfind
    have hyw : y = w := eq_of_mem_tableKeys hu hy (List.mem_of_find?_eq_some hw) hky
      ((w.hasTable_iff_mem k).1 hwk)
    have hwcur : w.key = cur := by simpa using List.find?_some hw
    have howner : owner = cur := by rw [← hyo, hyw, hwcur]
    subst howner
    obtain ⟨x, hx, hfb⟩ := find?_of_borrowFirst h
    obtain rfl : x = w := Option.some.inj (hx.symm.trans hw)
    refine navValid_of_at hcur (w := { x with tables := x.tables.filter (·.key != k) }) ?_
      fun t' h' => Workspace.hasTable_of_head? (hfb.trans h')
    rw [workspace?_withNav, workspace?_borrow h (fun _ => rfl), hw]
    simp
  · rename_i htk
    refine hv.borrow h (fun _ => rfl) fun w t' ht' hwt => ?_
    have hne : t' ≠ k := fun he => htk (he ▸ ht')
    simp only [Workspace.hasTable, List.any_eq_true, List.mem_filter] at hwt ⊢
    obtain ⟨x, hx, hxt⟩ := hwt
    have hxk : x.key = t' := by simpa using hxt
    exact ⟨x, ⟨hx, by simpa [hxk] using hne⟩, hxt⟩

/-- Removing a workspace keeps the navigation valid: the current workspace, if removed,
    is replaced by the first workspace left and its first table. -/
theorem NavValid.removeWorkspace (hv : d.NavValid) {k : Key} {i : Nat}
    (hi : d.workspaces.findIdx? (·.key == k) = some i) :
    (if d.nav.workspace = some k then
        ({ d with workspaces := d.workspaces.eraseIdx i } : Document).withNav
          (match (d.workspaces.eraseIdx i).head? with
            | some w => (d.nav.selectWorkspace (some w.key)).selectTable
                (w.tables.head?.map (·.key))
            | none => d.nav.selectWorkspace none)
      else { d with workspaces := d.workspaces.eraseIdx i }).NavValid := by
  split
  · split
    · rename_i w hw
      obtain ⟨rest, hrest⟩ := List.head?_eq_some_iff.1 hw
      have hfirst : ({ d with workspaces := d.workspaces.eraseIdx i } : Document).workspace? w.key
          = some w := by
        simp [workspace?, hrest]
      exact navValid_select hfirst (fun _ h => Workspace.hasTable_of_head? h) d.nav
    · exact navValid_of_top rfl rfl
  · rename_i hk
    obtain ⟨hlt, hik, -⟩ := List.findIdx?_eq_some_iff_getElem.1 hi
    refine hv.of_lookup rfl rfl fun k' w hk' hw => ⟨w, ?_, fun _ _ h => h⟩
    -- the erased workspace has the removed key, which is not the current one
    have hne : (d.workspaces[i].key == k') = false := by
      have hkey : d.workspaces[i].key = k := by simpa using hik
      have hkk : k ≠ k' := fun he => hk (he ▸ hk')
      simpa [hkey] using hkk
    show (d.workspaces.eraseIdx i).find? (·.key == k') = some w
    rw [find?_eraseIdx hlt hne]
    exact hw

/-- **Step lemma** for edits: a successful edit keeps the navigation valid in a document
    whose keys are distinct. -/
theorem NavValid.tryEdit (hv : d.NavValid) (hu : d.UniqueKeys) {e : Edit} {u : Unit}
    (h : (tryEdit e).run d = .ok u d') : d'.NavValid := by
  cases e with
  | addWorkspace w =>
      obtain ⟨-, rfl⟩ := tryEdit_addWorkspace_ok h
      refine hv.of_lookup rfl rfl fun k x _ hx => ⟨x, ?_, fun _ _ h => h⟩
      show (d.workspaces ++ [w]).find? (·.key == k) = some x
      rw [List.find?_append, show d.workspaces.find? (·.key == k) = some x from hx]
      rfl
  | renameWorkspace k name =>
      obtain ⟨ws, hb, rfl⟩ := withWorkspace_run_ok h
      exact hv.borrow hb (fun _ => rfl) fun _ _ _ ht => ht
  | removeWorkspace k =>
      obtain ⟨i, hi, rfl⟩ := tryEdit_removeWorkspace_ok h
      exact (hv.removeWorkspace hi).of_eq (clearRemovedGroupBy_workspaces _)
        (clearRemovedGroupBy_nav_workspace _) (clearRemovedGroupBy_nav_table _)
  | addTable wk t =>
      obtain ⟨-, ws, hb, rfl⟩ := tryEdit_addTable_ok h
      exact hv.addTable hb
  | renameTable k name => exact hv.withTable (fun t t' ht => by cases ht; rfl) h
  | removeTable k =>
      obtain ⟨owner, t, hfind, fallback, ws, hb, rfl⟩ := tryEdit_removeTable_ok h
      exact (hv.removeTable hu.tables hfind hb).of_eq (clearRemovedGroupBy_workspaces _)
        (clearRemovedGroupBy_nav_workspace _) (clearRemovedGroupBy_nav_table _)
  | addRow tk r => exact hv.withTable (fun _ _ => Table.key_eq_of_addRowStep) h
  | removeRow tk rk => exact hv.withTable (fun _ _ => Table.key_eq_of_removeRowStep) h
  | addColumn tk ck name kind options =>
      exact hv.withTable (fun _ _ => Table.key_eq_of_addColumnStep) h
  | renameColumn tk ck name => exact hv.withTable (fun _ _ => Table.key_eq_of_renameColumnStep) h
  | moveColumn tk ck position => exact hv.withTable (fun _ _ => Table.key_eq_of_moveColumnStep) h
  | removeColumn tk ck =>
      obtain ⟨d₁, h₁, rfl⟩ := tryEdit_removeColumn_ok h
      have hv₁ := hv.withTable (fun _ _ => Table.key_eq_of_removeColumnStep) h₁
      split
      · exact hv₁.of_eq rfl rfl rfl
      · exact hv₁
  | editCell tk rk ck v => exact hv.withTable (fun _ _ => Table.key_eq_of_editCellStep) h
  | resizeColumn tk ck width => exact hv.withTable (fun _ _ => Table.key_eq_of_resizeColumnStep) h
  | selectWorkspace k =>
      obtain ⟨w, hw, rfl⟩ := tryEdit_selectWorkspace_ok h
      exact navValid_select hw (fun _ h => Workspace.hasTable_of_head? h) d.nav
  | selectTable wk tk =>
      obtain ⟨w, hw, htk, rfl⟩ := tryEdit_selectTable_ok h
      exact navValid_select hw (fun _ h => by cases h; exact htk) d.nav
  | setGroupBy c =>
      rw [tryEdit_setGroupBy_ok h]
      exact hv.of_eq rfl rfl rfl
  | goToLevel l =>
      cases h
      exact hv.truncate l
  | toggleSidebar =>
      cases h
      exact hv.of_eq rfl rfl rfl
  | setSeparator c =>
      cases h
      exact hv.of_eq rfl rfl rfl

/-- **Step lemma**: every action keeps the navigation valid in a document whose keys are
    distinct. -/
theorem NavValid.execute (hv : d.NavValid) (hu : d.UniqueKeys) (a : Action) :
    (d.execute a).NavValid := by
  cases a with
  | select p =>
      cases p with
      | none => exact navValid_of_top rfl rfl
      | some p => exact hv.navigate hu.workspaces p
  | changeView v p g =>
      obtain ⟨hws, hw, ht⟩ := execute_changeView d v p g
      cases p with
      | some p => exact (hv.navigate hu.workspaces p).of_eq hws hw ht
      | none => exact hv.of_eq hws hw ht
  | edit e =>
      rcases execute_edit_cases d e with ⟨u, h⟩ | h
      · exact hv.tryEdit hu h
      · rw [h]
        exact hv
  | unknown => exact hv

end Document

/-- **Valid navigation along a run**: from a document whose navigation is valid and whose
    keys are distinct, a run whose added workspaces bring fresh table keys ends with a
    valid navigation.  Distinct keys are carried along the run by `UniqueKeys.run`. -/
theorem navValid_run (d : Document) (as : List Action) (hv : d.NavValid)
    (hu : d.UniqueKeys) (hf : d.FreshRun as) : (d.run as).NavValid := by
  induction as generalizing d with
  | nil => exact hv
  | cons a as ih =>
      rw [Document.run_cons]
      exact ih (d.execute a) (hv.execute hu a) (hu.execute hf.1) hf.2

/-- Workspace `a` with tables `t` and `u`. -/
def twoTables : Document :=
  { workspaces := [⟨⟨"a"⟩, "A", [Table.empty ⟨"t"⟩ "T", Table.empty ⟨"u"⟩ "U"]⟩] }

/-- Adding a workspace `b` with a table `v`, choosing that table, and removing it. -/
def addChooseRemove (table : Key) : List Action :=
  [.edit (.addWorkspace ⟨⟨"b"⟩, "B", [Table.empty table "V"]⟩),
    .edit (.selectTable ⟨"b"⟩ table), .edit (.removeTable table)]

theorem navValid_run_addChooseRemove :
    twoTables.NavValid ∧ twoTables.UniqueKeys ∧ twoTables.FreshRun (addChooseRemove ⟨"v"⟩) ∧
      (twoTables.run (addChooseRemove ⟨"v"⟩)).NavValid :=
  ⟨by decide, by decide, by decide,
    navValid_run twoTables (addChooseRemove ⟨"v"⟩) (by decide) (by decide) (by decide)⟩

/-- A workspace that brings a table key already taken breaks the navigation: removing
    that key removes the first table of it, in workspace `a`, and the navigation, left in
    workspace `b`, falls back to table `u` of workspace `a`. -/
theorem navValid_run_fails_of_shared_table_key :
    twoTables.NavValid ∧ twoTables.UniqueKeys ∧
      ¬ (twoTables.run (addChooseRemove ⟨"t"⟩)).NavValid := by
  decide

end Tabula
