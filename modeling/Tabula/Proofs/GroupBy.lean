import Tabula.Proofs.WellFormed
import Tabula.Model.Sample
/-! # The grouping column never dangles

    `GroupByValid`: the column a kanban view groups by, when one is set, is a column of
    some table of some workspace.  Columns go away in three ways, and each one forgets
    the grouping column when it took the last column of that key: removing a column
    clears it on the exact key, and removing a table or a workspace rescans every table
    (`groupByValid_clearRemovedGroupBy`).  The grouping column is set in two ways, each
    to a column of the current table: changing to the kanban view resolves its token in
    the current table (`resolveGroupBy_mem_columnKeys`), and the edit that sets it checks
    the current table first.  Every other action keeps the columns of the document, or
    adds to them, and keeps the grouping column.

    * `GroupByValid.execute`: every action keeps the grouping column valid;
    * `groupByValid_run`: so does every run of actions, from any document where it is
      valid; unlike the navigation, it needs nothing of the keys. -/

namespace Tabula

namespace Document

/-- Some table of some workspace has a column of the key. -/
def HoldsColumn (d : Document) (c : Key) : Prop := ∃ t ∈ d.tables, c ∈ t.columnKeys

/-- The grouping column, when set, is a column of some table of some workspace. -/
def GroupByValid (d : Document) : Prop := ∀ c ∈ d.nav.groupBy, d.HoldsColumn c

instance (d : Document) (c : Key) : Decidable (d.HoldsColumn c) :=
  inferInstanceAs (Decidable (∃ t ∈ d.tables, _))

instance (d : Document) : Decidable d.GroupByValid :=
  inferInstanceAs (Decidable (∀ c ∈ d.nav.groupBy, _))

/-- The test that forgets a removed grouping column is the one the invariant states. -/
theorem columnExists_iff (d : Document) (c : Key) :
    d.columnExists c = true ↔ d.HoldsColumn c := by
  simp only [columnExists, List.any_eq_true, Table.hasColumn_iff_mem, HoldsColumn, mem_tables]
  constructor
  · rintro ⟨w, hw, t, ht, hc⟩
    exact ⟨t, ⟨w, hw, ht⟩, hc⟩
  · rintro ⟨t, ⟨w, hw, ht⟩, hc⟩
    exact ⟨w, hw, t, ht, hc⟩

variable {d d' : Document}

/-- A grouping column that no table has any more is forgotten, so whatever the removal
    took, the grouping column is valid afterwards. -/
theorem groupByValid_clearRemovedGroupBy (d : Document) : d.clearRemovedGroupBy.GroupByValid := by
  intro c hc
  rw [clearRemovedGroupBy_nav_groupBy, Option.mem_filter_iff] at hc
  have hws : d.clearRemovedGroupBy.tables = d.tables := by
    simp [tables]
  rw [HoldsColumn, hws]
  exact (columnExists_iff d c).1 hc.2

/-- **Frame lemma**: a change that keeps the grouping column and keeps every table of
    the document, perhaps with others added, keeps the grouping column valid. -/
theorem GroupByValid.of_subset (hv : d.GroupByValid) (hg : d'.nav.groupBy = d.nav.groupBy)
    (hsub : d.tables ⊆ d'.tables) : d'.GroupByValid := by
  intro c hc
  obtain ⟨t, ht, hct⟩ := hv c (hg ▸ hc)
  exact ⟨t, hsub ht, hct⟩

/-- A change of the navigation that keeps the grouping column keeps it valid. -/
theorem GroupByValid.of_eq (hv : d.GroupByValid) (hws : d'.workspaces = d.workspaces)
    (hg : d'.nav.groupBy = d.nav.groupBy) : d'.GroupByValid :=
  hv.of_subset hg fun t ht => by simpa [tables, hws] using ht

/-- Forgetting the grouping column makes it valid. -/
theorem groupByValid_of_none (h : d.nav.groupBy = none) : d.GroupByValid := by
  intro c hc
  simp [h] at hc

/-! ## Lookups that set the grouping column -/

/-- The current table is a table of the document. -/
theorem currentTable_mem_tables {t : Table} (h : d.currentTable = some t) : t ∈ d.tables := by
  simp only [currentTable, currentWorkspace, Option.bind_eq_bind, Option.bind_eq_some_iff]
    at h
  obtain ⟨w, ⟨k, -, hw⟩, tk, -, ht⟩ := h
  exact mem_tables.2 ⟨w, List.mem_of_find?_eq_some hw, List.mem_of_find?_eq_some ht⟩

end Document

/-- The column a token names is a column of the table, found by position or by name in
    the display sequence, which holds the same columns. -/
theorem resolveGroupBy_mem_columnKeys {t : Table} {token : String} {c : Key}
    (h : resolveGroupBy t token = some c) : c ∈ t.columnKeys := by
  unfold resolveGroupBy at h
  obtain ⟨col, hcol, rfl⟩ := Option.map_eq_some_iff.1 h
  have hmem : col ∈ t.ordered := by
    split at hcol
    · obtain ⟨n, -, hn⟩ := Option.bind_eq_some_iff.1 hcol
      exact atPosition?_mem hn
    · exact List.mem_of_find?_eq_some hcol
  exact List.mem_map_of_mem (List.mem_mergeSort.1 hmem)

namespace Navigation

@[simp] theorem selectWorkspace_groupBy (n : Navigation) (w : Option Key) :
    (n.selectWorkspace w).groupBy = n.groupBy := rfl

@[simp] theorem selectTable_groupBy (n : Navigation) (t : Option Key) :
    (n.selectTable t).groupBy = n.groupBy := rfl

@[simp] theorem home_groupBy (n : Navigation) : n.home.groupBy = n.groupBy := rfl

@[simp] theorem truncate_groupBy (n : Navigation) (l : Level) :
    (n.truncate l).groupBy = n.groupBy := by
  cases l <;> rfl

@[simp] theorem up_groupBy (n : Navigation) : n.up.groupBy = n.groupBy := by
  unfold up
  split_ifs <;> rfl

@[simp] theorem upBy_groupBy (n : Navigation) (levels : Nat) :
    (n.upBy levels).groupBy = n.groupBy := by
  induction levels generalizing n with
  | zero => rfl
  | succ levels ih => simp [upBy, ih]

end Navigation

/-- Resolving a path moves the place and keeps the grouping column. -/
theorem resolvePath_groupBy {ws : List Workspace} {nav n : Navigation} {p : Path}
    (h : resolvePath ws nav p = some n) : n.groupBy = nav.groupBy := by
  cases p with
  | absolute segments =>
      simp only [resolvePath, resolveAbsolute] at h
      split at h
      · split at h
        · cases h
          rfl
        · simp only [Option.bind_eq_bind, Option.bind_eq_some_iff] at h
          obtain ⟨-, -, t, -, h⟩ := h
          cases h
          rfl
      · cases h
      · simp only [Option.bind_eq_bind, Option.bind_eq_some_iff] at h
        obtain ⟨w, -, h⟩ := h
        split at h
        · cases h
          rfl
        · split at h <;> cases h <;> rfl
  | ascend levels =>
      cases h
      simp
  | descend target =>
      simp only [resolvePath, resolveRelative, Option.bind_eq_bind, Option.bind_eq_some_iff]
        at h
      obtain ⟨-, -, w, -, h⟩ := h
      cases target with
      | one token =>
          dsimp only at h
          split at h
          · obtain ⟨r, -, h⟩ := Option.bind_eq_some_iff.1 h
            cases h
            rfl
          · obtain ⟨t, -, h⟩ := Option.bind_eq_some_iff.1 h
            cases h
            rfl
      | two row col =>
          simp only [Option.bind_eq_some_iff] at h
          obtain ⟨r, -, c, -, h⟩ := h
          cases h
          rfl
      | columnOnly col =>
          simp only [Option.bind_eq_some_iff] at h
          obtain ⟨c, -, h⟩ := h
          cases h
          rfl
      | three table row col =>
          simp only [Option.bind_eq_some_iff] at h
          obtain ⟨t, -, h⟩ := h
          cases h
          rfl

namespace Document

variable {d d' : Document}

@[simp] theorem navigate_groupBy (d : Document) (p : Path) :
    (d.navigate p).nav.groupBy = d.nav.groupBy := by
  rcases navigate_cases d p with ⟨n, hn, h⟩ | h
  · rw [h, withNav_nav]
    exact resolvePath_groupBy hn
  · rw [h]

/-- Changing the view keeps the grouping column, or groups a kanban view by a column that
    its token names in the current table after going to the path. -/
theorem execute_changeView_groupBy (d : Document) (v : View) (p : Option Path)
    (g : Option String) :
    let d₁ := match p with
      | some p => d.navigate p
      | none => d
    (d.execute (.changeView v p g)).nav.groupBy = d₁.nav.groupBy ∨
      ∃ token t c, d₁.currentTable = some t ∧ resolveGroupBy t token = some c ∧
        (d.execute (.changeView v p g)).nav.groupBy = some c := by
  intro d₁
  dsimp only [execute]
  split
  · split
    · rename_i token t ht
      split
      · rename_i c hc
        exact .inr ⟨token, t, c, ht, hc, rfl⟩
      · exact .inl rfl
    · exact .inl rfl
  · exact .inl rfl

/-- The edit that sets a grouping column checks that the current table has it. -/
theorem tryEdit_setGroupBy_some_ok {c : Key} {u : Unit}
    (h : (tryEdit (.setGroupBy (some c))).run d = .ok u d') :
    ∃ t, d.currentTable = some t ∧ t.hasColumn c = true ∧
      d' = d.withNav { d.nav with groupBy := some c } := by
  simp only [tryEdit, EStateM.run_bind, EStateM.run_get] at h
  split at h
  · rename_i t ht
    split at h
    · cases h
    · rename_i hcol
      cases h
      exact ⟨t, ht, by simpa using hcol, rfl⟩
  · cases h

/-! ## Edits -/

/-- **Frame lemma** for the borrow of a table: a step that keeps the grouping column among
    the columns of its table keeps the grouping column valid. -/
theorem GroupByValid.withTable {α : Type} {k : Key} {act : EStateM EditError Table α} {a : α}
    (hv : d.GroupByValid)
    (hstep : ∀ t t', act.run t = .ok a t' → ∀ c ∈ d.nav.groupBy,
      c ∈ t.columnKeys → c ∈ t'.columnKeys)
    (h : (withTable k act).run d = .ok a d') : d'.GroupByValid := by
  obtain ⟨hnav, -, hws⟩ := withTable_run_ok h
  intro c hc
  rw [hnav] at hc
  obtain ⟨t, ht, hct⟩ := hv c hc
  obtain ⟨w, hw, htw⟩ := mem_tables.1 ht
  -- follow the table's workspace, then the table itself, through the borrow
  obtain ⟨w', hw', hww⟩ := exists_of_mem_forall₂ hws.flip hw
  obtain ⟨t', ht', htt⟩ := exists_of_mem_forall₂ hww.2.2.flip htw
  refine ⟨t', mem_tables.2 ⟨w', hw', ht'⟩, ?_⟩
  rcases htt with rfl | ⟨-, hrun⟩
  · exact hct
  · exact hstep t t' hrun c hc hct

/-- A table step whose columns after are those before keeps the grouping column valid. -/
theorem GroupByValid.withTable_keys {α : Type} {k : Key} {act : EStateM EditError Table α}
    {a : α} (hv : d.GroupByValid)
    (hkeys : ∀ t t', act.run t = .ok a t' → t'.columnKeys = t.columnKeys)
    (h : (Document.withTable k act).run d = .ok a d') : d'.GroupByValid :=
  hv.withTable (fun t t' hrun _ _ hct => (hkeys t t' hrun).symm ▸ hct) h

/-- **Step lemma** for edits: a successful edit keeps the grouping column valid. -/
theorem GroupByValid.tryEdit (hv : d.GroupByValid) {e : Edit} {u : Unit}
    (h : (tryEdit e).run d = .ok u d') : d'.GroupByValid := by
  cases e with
  | addWorkspace w =>
      obtain ⟨-, rfl⟩ := tryEdit_addWorkspace_ok h
      exact hv.of_subset rfl fun t ht => by
        simp only [tables, List.flatMap_append, List.mem_append] at ht ⊢
        exact .inl ht
  | renameWorkspace k name =>
      obtain ⟨ws, hb, rfl⟩ := withWorkspace_run_ok h
      have htables : ws.map (·.tables) = d.workspaces.map (·.tables) :=
        map_borrowFirst (fun _ => rfl) hb
      refine hv.of_subset rfl fun t ht => ?_
      show t ∈ ws.flatMap (·.tables)
      rw [List.flatMap_def, htables]
      exact ht
  | removeWorkspace k =>
      obtain ⟨i, -, rfl⟩ := tryEdit_removeWorkspace_ok h
      exact groupByValid_clearRemovedGroupBy _
  | addTable wk t =>
      obtain ⟨-, ws, hb, rfl⟩ := tryEdit_addTable_ok h
      have hperm : (ws.flatMap (·.tables)).Perm (t :: d.tables) :=
        flatMap_borrowFirst_perm (fun _ => rfl) hb
      have hsub : d.tables ⊆ ws.flatMap (·.tables) := fun t' ht' =>
        hperm.symm.subset (List.mem_cons_of_mem _ ht')
      split
      · exact hv.of_subset rfl hsub
      · exact hv.of_subset rfl hsub
  | renameTable k name =>
      exact hv.withTable_keys (fun t t' hrun => by cases hrun; rfl) h
  | removeTable k =>
      obtain ⟨owner, t, -, fallback, ws, -, rfl⟩ := tryEdit_removeTable_ok h
      exact groupByValid_clearRemovedGroupBy _
  | addRow tk r =>
      exact hv.withTable_keys (fun t t' hrun => by rw [(Table.addRowStep_run_ok hrun).2]; rfl) h
  | removeRow tk rk =>
      exact hv.withTable_keys (fun t t' hrun => by rw [Table.removeRowStep_run_ok hrun]; rfl) h
  | addColumn tk ck name kind options =>
      refine hv.withTable (fun t t' hrun _ _ hct => ?_) h
      rw [(Table.addColumnStep_run_ok hrun).2]
      simp [Table.columnKeys, List.mem_map.1 hct]
  | renameColumn tk ck name =>
      refine hv.withTable_keys (fun t t' hrun => ?_) h
      obtain ⟨cs, hcs, rfl⟩ := Table.renameColumnStep_run_ok hrun
      exact map_borrowFirst (fun _ => rfl) hcs
  | moveColumn tk ck position =>
      exact hv.withTable_keys (fun t t' hrun =>
        (Table.moveColumn_eq_ok (Table.moveColumnStep_run_ok hrun)).2.2.2.2) h
  | removeColumn tk ck =>
      obtain ⟨d₁, h₁, rfl⟩ := tryEdit_removeColumn_ok h
      have hnav : d₁.nav = d.nav := (withTable_run_ok h₁).1
      split
      · exact groupByValid_of_none rfl
      · rename_i hck
        -- the grouping column is another column than the removed one, so it stays
        refine hv.withTable (fun t t' hrun c hc hct => ?_) h₁
        rw [(Table.removeColumnStep_run_ok hrun).2]
        refine Table.mem_columnKeys_removeColumn.2 ⟨hct, fun hcc => hck ?_⟩
        rw [hnav, ← hcc]
        exact hc
  | editCell tk rk ck v =>
      refine hv.withTable_keys (fun t t' hrun => ?_) h
      obtain ⟨-, rows, -, rfl⟩ := Table.editCellStep_run_ok hrun
      rfl
  | resizeColumn tk ck width =>
      exact hv.withTable_keys
        (fun t t' hrun => by rw [(Table.resizeColumnStep_run_ok hrun).2]; rfl) h
  | selectWorkspace k =>
      obtain ⟨w, -, rfl⟩ := tryEdit_selectWorkspace_ok h
      exact hv.of_eq rfl rfl
  | selectTable wk tk =>
      obtain ⟨w, -, -, rfl⟩ := tryEdit_selectTable_ok h
      exact hv.of_eq rfl rfl
  | setGroupBy c =>
      cases c with
      | none =>
          rw [tryEdit_setGroupBy_ok h]
          exact groupByValid_of_none rfl
      | some c =>
          obtain ⟨t, ht, hcol, rfl⟩ := tryEdit_setGroupBy_some_ok h
          intro c' hc'
          cases hc'
          exact ⟨t, currentTable_mem_tables ht, (Table.hasColumn_iff_mem t c).1 hcol⟩
  | goToLevel l =>
      cases h
      exact hv.of_eq rfl (Navigation.truncate_groupBy _ _)
  | toggleSidebar =>
      cases h
      exact hv.of_eq rfl rfl
  | setSeparator s =>
      cases h
      exact hv.of_eq rfl rfl

/-- **Step lemma**: every action keeps the grouping column valid. -/
theorem GroupByValid.execute (hv : d.GroupByValid) (a : Action) : (d.execute a).GroupByValid := by
  cases a with
  | select p =>
      cases p with
      | none => exact hv.of_eq rfl (Navigation.home_groupBy _)
      | some p => exact hv.of_eq (navigate_workspaces d p) (navigate_groupBy d p)
  | changeView v p g =>
      -- going to the path keeps the grouping column and the tables
      have hv₁ : (match p with
          | some p => d.navigate p
          | none => d).GroupByValid := by
        cases p with
        | some p => exact hv.of_eq (navigate_workspaces d p) (navigate_groupBy d p)
        | none => exact hv
      have hws := (execute_changeView d v p g).1
      rcases execute_changeView_groupBy d v p g with hg | ⟨token, t, c, ht, hc, hg⟩
      · exact hv₁.of_eq hws hg
      · intro c' hc'
        rw [hg] at hc'
        cases hc'
        refine ⟨t, ?_, resolveGroupBy_mem_columnKeys hc⟩
        unfold tables
        rw [hws]
        exact currentTable_mem_tables ht
  | edit e =>
      rcases execute_edit_cases d e with ⟨u, h⟩ | h
      · exact hv.tryEdit h
      · rw [h]
        exact hv
  | unknown => exact hv

end Document

/-- **The grouping column never dangles**: from a document whose grouping column, when
    set, is a column of some table, every run of actions ends in such a document. -/
theorem groupByValid_run (d : Document) (as : List Action) (hv : d.GroupByValid) :
    (d.run as).GroupByValid := by
  induction as generalizing d with
  | nil => exact hv
  | cons a as ih =>
      rw [Document.run_cons]
      exact ih (d.execute a) (hv.execute a)

/-- The sample at table `Tasks` in the kanban view, grouped by its status column. -/
def groupedByStatus : Document :=
  Document.withNav Document.sampleAtTasks
    { Document.sampleAtTasks.nav with view := .kanban, groupBy := some ⟨"c:status"⟩ }

/-- Removing another column of `Tasks`, then the table `Tasks` itself. -/
def dropPriorityThenTasks : List Action :=
  [.edit (.removeColumn ⟨"t:tasks"⟩ ⟨"c:priority"⟩), .edit (.removeTable ⟨"t:tasks"⟩)]

theorem groupByValid_run_dropPriorityThenTasks :
    groupedByStatus.GroupByValid ∧ (groupedByStatus.run dropPriorityThenTasks).GroupByValid :=
  ⟨by decide, groupByValid_run groupedByStatus dropPriorityThenTasks (by decide)⟩

end Tabula
