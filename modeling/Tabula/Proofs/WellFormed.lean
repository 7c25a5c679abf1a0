import Tabula.Proofs.Keys
import Tabula.Proofs.RoundTrip
/-! # Well-formed documents

    A table is well formed when its column keys are distinct and so are its row keys,
    every cell and every width names a column of the table, every width is at least
    `minColumnWidth` and no cell holds `null` (`Table.WellFormed`).  A document is well
    formed when its keys are distinct (`UniqueKeys`) and all its tables are well formed.

    Each table step keeps its table well formed: a row or a column is added only under a
    new key, a removed column takes its cells and its width along, and a cell or a width
    is stored only for a column the table has, a width never below `minColumnWidth` and a
    `null` emptying its cell.  So every action keeps a document well formed when what it
    adds is well formed (`PayloadWellFormed`) and an added workspace brings fresh table
    keys (`FreshTables`) (`wellFormed_execute`).  Adding a workspace checks only the
    workspace's own key, and one that brings a table key already taken breaks the
    distinct keys (`wellFormed_execute_fails_of_shared_table_key`). -/

namespace Tabula

open Json

namespace Table

/-- The keys of the columns, in storage order. -/
def columnKeys (t : Table) : List Key := t.columns.map (·.key)

/-- The keys of the rows, in storage order. -/
def rowKeys (t : Table) : List Key := t.rows.map (·.key)

theorem hasColumn_iff_mem (t : Table) (k : Key) : t.hasColumn k = true ↔ k ∈ t.columnKeys := by
  simp [hasColumn, columnKeys]

theorem hasRow_iff_mem (t : Table) (k : Key) : t.hasRow k = true ↔ k ∈ t.rowKeys := by
  simp [hasRow, rowKeys]

/-- Distinct column keys and row keys, cells and widths that name columns of the table,
    widths of at least `minColumnWidth`, and no `null` cell. -/
structure WellFormed (t : Table) : Prop where
  columns : t.columnKeys.Nodup
  rows : t.rowKeys.Nodup
  cells : ∀ r ∈ t.rows, ∀ e ∈ r.cells, e.1 ∈ t.columnKeys
  widths : ∀ e ∈ t.widths, e.1 ∈ t.columnKeys
  widthsAtLeastMin : t.WidthsAtLeastMin
  noNullCells : t.NoNullCells

instance (t : Table) : Decidable t.WellFormed :=
  decidable_of_iff (t.columnKeys.Nodup ∧ t.rowKeys.Nodup ∧
      (∀ r ∈ t.rows, ∀ e ∈ r.cells, e.1 ∈ t.columnKeys) ∧ (∀ e ∈ t.widths, e.1 ∈ t.columnKeys) ∧
      t.WidthsAtLeastMin ∧ t.NoNullCells)
    ⟨fun ⟨a, b, c, d, e, f⟩ => ⟨a, b, c, d, e, f⟩, fun h => ⟨h.1, h.2, h.3, h.4, h.5, h.6⟩⟩

end Table

/-- A row fits a table when its cells name columns of the table and hold no `null`. -/
def Row.FitsIn (r : Row) (t : Table) : Prop :=
  ∀ e ∈ r.cells, e.1 ∈ t.columnKeys ∧ e.2.isNull = false

instance (r : Row) (t : Table) : Decidable (r.FitsIn t) :=
  inferInstanceAs (Decidable (∀ e ∈ r.cells, _))

/-- A workspace whose table keys are distinct and whose tables are well formed. -/
structure Workspace.WellFormed (w : Workspace) : Prop where
  tableKeys : w.tableKeys.Nodup
  tables : ∀ t ∈ w.tables, t.WellFormed

instance (w : Workspace) : Decidable w.WellFormed :=
  decidable_of_iff (w.tableKeys.Nodup ∧ ∀ t ∈ w.tables, t.WellFormed)
    ⟨fun ⟨a, b⟩ => ⟨a, b⟩, fun h => ⟨h.1, h.2⟩⟩

/-- Distinct keys, and well-formed tables. -/
structure Document.WellFormed (d : Document) : Prop where
  keys : d.UniqueKeys
  tables : ∀ t ∈ d.tables, t.WellFormed

instance (d : Document) : Decidable d.WellFormed :=
  decidable_of_iff (d.UniqueKeys ∧ ∀ t ∈ d.tables, t.WellFormed)
    ⟨fun ⟨a, b⟩ => ⟨a, b⟩, fun h => ⟨h.1, h.2⟩⟩

namespace Action

/-- The workspace an action adds. -/
def addedWorkspace? : Action → Option Workspace
  | .edit (.addWorkspace w) => some w
  | _ => none

/-- The table an action adds. -/
def addedTable? : Action → Option Table
  | .edit (.addTable _ t) => some t
  | _ => none

/-- The row an action adds, with the key of the table it goes to. -/
def addedRow? : Action → Option (Key × Row)
  | .edit (.addRow tk r) => some (tk, r)
  | _ => none

end Action

/-- What an action adds is well formed: an added workspace or table is, and an added row
    fits every table of the key it goes to. -/
def Document.PayloadWellFormed (d : Document) (a : Action) : Prop :=
  (∀ w ∈ a.addedWorkspace?, w.WellFormed) ∧ (∀ t ∈ a.addedTable?, t.WellFormed) ∧
    ∀ p ∈ a.addedRow?, ∀ t ∈ d.tables, t.key = p.1 → p.2.FitsIn t

instance (d : Document) (a : Action) : Decidable (d.PayloadWellFormed a) :=
  inferInstanceAs (Decidable (_ ∧ _ ∧ _))

/-! ## Table steps -/

namespace Table

variable {t t' : Table} {u : Unit}

/-- **Frame lemma**: new columns whose keys are distinct and include the old ones, over
    the same rows and widths, keep a table well formed. -/
theorem WellFormed.of_columns (ht : t.WellFormed) (hnodup : t'.columnKeys.Nodup)
    (hkeep : ∀ k ∈ t.columnKeys, k ∈ t'.columnKeys) (hrows : t'.rows = t.rows)
    (hwidths : t'.widths = t.widths) : t'.WellFormed where
  columns := hnodup
  rows := by
    unfold rowKeys
    rw [hrows]
    exact ht.rows
  cells r hr e he := hkeep _ (ht.cells r (hrows ▸ hr) e he)
  widths e he := hkeep _ (ht.widths e (hwidths ▸ he))
  widthsAtLeastMin e he := ht.widthsAtLeastMin e (hwidths ▸ he)
  noNullCells r hr := ht.noNullCells r (hrows ▸ hr)

/-- Columns of the same keys, over the same rows and widths, keep a table well formed. -/
theorem WellFormed.of_columnKeys_eq (ht : t.WellFormed) (hkeys : t'.columnKeys = t.columnKeys)
    (hrows : t'.rows = t.rows) (hwidths : t'.widths = t.widths) : t'.WellFormed :=
  ht.of_columns (hkeys ▸ ht.columns) (fun _ hk => hkeys ▸ hk) hrows hwidths

theorem WellFormed.addRowStep {r : Row} (ht : t.WellFormed) (hr : r.FitsIn t)
    (h : (addRowStep r).run t = .ok u t') : t'.WellFormed := by
  obtain ⟨hnew, rfl⟩ := addRowStep_run_ok h
  have hfresh : r.key ∉ t.rowKeys := fun hm => by
    rw [(hasRow_iff_mem t r.key).2 hm] at hnew
    cases hnew
  -- the added row is the last one
  have hmem (r' : Row) (hr' : r' ∈ t.rows ++ [r]) : r' ∈ t.rows ∨ r' = r := by
    simpa using hr'
  refine ⟨ht.columns, ?_, fun r' hr' e he => ?_, ht.widths, ht.widthsAtLeastMin,
    fun r' hr' e he => ?_⟩
  · show ((t.rows ++ [r]).map (·.key)).Nodup
    rw [List.map_append]
    exact ht.rows.append (List.nodup_singleton _) (List.disjoint_singleton.2 hfresh)
  · rcases hmem r' hr' with hr' | rfl
    · exact ht.cells r' hr' e he
    · exact (hr e he).1
  · rcases hmem r' hr' with hr' | rfl
    · exact ht.noNullCells r' hr' e he
    · exact (hr e he).2

theorem WellFormed.removeRowStep {k : Key} (ht : t.WellFormed)
    (h : (removeRowStep k).run t = .ok u t') : t'.WellFormed := by
  rw [removeRowStep_run_ok h]
  have hsub (r : Row) (hr : r ∈ t.rows.filter (·.key != k)) : r ∈ t.rows :=
    (List.mem_filter.1 hr).1
  exact ⟨ht.columns, ht.rows.sublist (List.filter_sublist.map _),
    fun r hr => ht.cells r (hsub r hr), ht.widths, ht.widthsAtLeastMin,
    fun r hr => ht.noNullCells r (hsub r hr)⟩

theorem WellFormed.addColumnStep {k : Key} {name : String} {kind : ColumnKind}
    {options : List String} (ht : t.WellFormed)
    (h : (addColumnStep k name kind options).run t = .ok u t') : t'.WellFormed := by
  obtain ⟨hnew, rfl⟩ := addColumnStep_run_ok h
  have hfresh : k ∉ t.columnKeys := fun hm => by
    rw [(hasColumn_iff_mem t k).2 hm] at hnew
    cases hnew
  have hkeys : columnKeys { t with columns := t.columns ++ [⟨k, name, kind, options,
      t.nextOrder⟩] } = t.columnKeys ++ [k] := by
    simp [columnKeys]
  refine ht.of_columns ?_ (fun k' hk' => ?_) rfl rfl
  · rw [hkeys]
    exact ht.columns.append (List.nodup_singleton _) (List.disjoint_singleton.2 hfresh)
  · rw [hkeys]
    exact List.mem_append_left _ hk'

theorem WellFormed.renameColumnStep {k : Key} {name : String} (ht : t.WellFormed)
    (h : (renameColumnStep k name).run t = .ok u t') : t'.WellFormed := by
  obtain ⟨cs, hcs, rfl⟩ := renameColumnStep_run_ok h
  exact ht.of_columnKeys_eq (map_borrowFirst (fun _ => rfl) hcs) rfl rfl

theorem WellFormed.moveColumnStep {k : Key} {position : Nat} (ht : t.WellFormed)
    (h : (moveColumnStep k position).run t = .ok u t') : t'.WellFormed := by
  obtain ⟨-, -, hrows, hwidths, hkeys⟩ := moveColumn_eq_ok (moveColumnStep_run_ok h)
  exact ht.of_columnKeys_eq hkeys hrows hwidths

/-- The columns left after removing a column are the others. -/
theorem mem_columnKeys_removeColumn {k k' : Key} :
    k' ∈ (t.removeColumn k).columnKeys ↔ k' ∈ t.columnKeys ∧ k' ≠ k := by
  simp only [removeColumn, columnKeys, List.mem_map, List.mem_filter, bne_iff_ne, ne_eq]
  constructor
  · rintro ⟨c, ⟨hc, hne⟩, rfl⟩
    exact ⟨⟨c, hc, rfl⟩, by simpa using hne⟩
  · rintro ⟨⟨c, hc, rfl⟩, hne⟩
    exact ⟨c, ⟨hc, by simpa using hne⟩, rfl⟩

theorem WellFormed.removeColumnStep {k : Key} (ht : t.WellFormed)
    (h : (removeColumnStep k).run t = .ok u t') : t'.WellFormed := by
  rw [(removeColumnStep_run_ok h).2]
  -- every row loses the cell of the column, and keeps its key
  have hrow (r' : Row) (hr' : r' ∈ (t.removeColumn k).rows) :
      ∃ r ∈ t.rows, r' = { r with cells := r.cells.erase k } := by
    simpa [removeColumn, eq_comm] using hr'
  refine ⟨?_, ?_, fun r' hr' e he => ?_, fun e he => ?_, fun e he => ?_, fun r' hr' e he => ?_⟩
  · exact ht.columns.sublist (List.filter_sublist.map _)
  · show ((t.rows.map fun r => { r with cells := r.cells.erase k }).map (·.key)).Nodup
    simpa [List.map_map, Function.comp_def, rowKeys] using ht.rows
  · obtain ⟨r, hr, rfl⟩ := hrow r' hr'
    obtain ⟨he, hne⟩ := KeyMap.mem_erase.1 he
    exact mem_columnKeys_removeColumn.2 ⟨ht.cells r hr e he, hne⟩
  · obtain ⟨he, hne⟩ := KeyMap.mem_erase.1 he
    exact mem_columnKeys_removeColumn.2 ⟨ht.widths e he, hne⟩
  · exact ht.widthsAtLeastMin e (KeyMap.mem_erase.1 he).1
  · obtain ⟨r, hr, rfl⟩ := hrow r' hr'
    exact ht.noNullCells r hr e (KeyMap.mem_erase.1 he).1

theorem WellFormed.editCellStep {rk ck : Key} {v : Value} (ht : t.WellFormed)
    (h : (editCellStep rk ck v).run t = .ok u t') : t'.WellFormed := by
  obtain ⟨hcol, rows, hrows, rfl⟩ := editCellStep_run_ok h
  have hkeys : rows.map (·.key) = t.rows.map (·.key) :=
    map_borrowFirst (fun r => Row.key_set r ck v) hrows
  -- a row after the edit is an old row, or an old row with the cell set
  have hrow (r' : Row) (hr' : r' ∈ rows) : r' ∈ t.rows ∨ ∃ r ∈ t.rows, r' = r.set ck v :=
    mem_of_borrowFirst hrows hr'
  refine ⟨ht.columns, ?_, fun r' hr' e he => ?_, ht.widths, ht.widthsAtLeastMin,
    fun r' hr' e he => ?_⟩
  · show (rows.map (·.key)).Nodup
    rw [hkeys]
    exact ht.rows
  · rcases hrow r' hr' with hr' | ⟨r, hr, rfl⟩
    · exact ht.cells r' hr' e he
    · rcases Row.mem_cells_set he with ⟨rfl, -⟩ | he
      · exact (hasColumn_iff_mem t ck).1 hcol
      · exact ht.cells r hr e he
  · rcases hrow r' hr' with hr' | ⟨r, hr, rfl⟩
    · exact ht.noNullCells r' hr' e he
    · rcases Row.mem_cells_set he with ⟨rfl, hv⟩ | he
      · exact hv
      · exact ht.noNullCells r hr e he

theorem WellFormed.resizeColumnStep {k : Key} {width : Nat} (ht : t.WellFormed)
    (h : (resizeColumnStep k width).run t = .ok u t') : t'.WellFormed := by
  obtain ⟨hcol, rfl⟩ := resizeColumnStep_run_ok h
  refine ⟨ht.columns, ht.rows, ht.cells, fun e he => ?_, fun e he => ?_, ht.noNullCells⟩
  · rcases KeyMap.mem_insert he with rfl | he
    · exact (hasColumn_iff_mem t k).1 hcol
    · exact ht.widths e he
  · rcases KeyMap.mem_insert he with rfl | he
    · exact le_max_right _ _
    · exact ht.widthsAtLeastMin e he

end Table

/-! ## Edits and actions -/

namespace Document

variable {d d' : Document}

/-- **Frame lemma** for the borrow of a table: a step that keeps the well-formed tables
    of the key well formed keeps every table well formed. -/
theorem tablesWellFormed_withTable {α : Type} {k : Key} {act : EStateM EditError Table α}
    {a : α} (hd : ∀ t ∈ d.tables, t.WellFormed)
    (hstep : ∀ t t', t ∈ d.tables → t.key = k → t.WellFormed → act.run t = .ok a t' →
      t'.WellFormed)
    (h : (withTable k act).run d = .ok a d') : ∀ t ∈ d'.tables, t.WellFormed := by
  obtain ⟨-, -, hws⟩ := withTable_run_ok h
  intro t' ht'
  obtain ⟨w', hw', ht'⟩ := mem_tables.1 ht'
  obtain ⟨w, hw, hww⟩ := exists_of_mem_forall₂ hws hw'
  obtain ⟨t, ht, htt⟩ := exists_of_mem_forall₂ hww.2.2 ht'
  have htd : t ∈ d.tables := mem_tables.2 ⟨w, hw, ht⟩
  rcases htt with rfl | ⟨hk, hrun⟩
  · exact hd _ htd
  · exact hstep t t' htd hk (hd t htd) hrun

/-- Tables of which some were dropped stay well formed. -/
theorem tablesWellFormed_of_sublist (hd : ∀ t ∈ d.tables, t.WellFormed)
    (h : d'.tables.Sublist d.tables) : ∀ t ∈ d'.tables, t.WellFormed :=
  fun t ht => hd t (h.subset ht)

/-- **Step lemma** for edits: a successful edit whose payload is well formed keeps every
    table well formed. -/
theorem tablesWellFormed_tryEdit (hd : ∀ t ∈ d.tables, t.WellFormed) {e : Edit}
    (hp : d.PayloadWellFormed (.edit e)) (h : (tryEdit e).run d = .ok u d') :
    ∀ t ∈ d'.tables, t.WellFormed := by
  cases e with
  | addWorkspace w =>
      obtain ⟨-, rfl⟩ := tryEdit_addWorkspace_ok h
      intro t ht
      simp only [tables, List.flatMap_append, List.mem_append] at ht
      rcases ht with ht | ht
      · exact hd t ht
      · exact (hp.1 w rfl).tables t (by simpa using ht)
  | renameWorkspace k name =>
      obtain ⟨ws, hb, rfl⟩ := withWorkspace_run_ok h
      have htables : ws.map (·.tables) = d.workspaces.map (·.tables) :=
        map_borrowFirst (fun _ => rfl) hb
      refine tablesWellFormed_of_sublist hd ?_
      show (ws.flatMap (·.tables)).Sublist (d.workspaces.flatMap (·.tables))
      rw [List.flatMap_def, List.flatMap_def, htables]
  | removeWorkspace k =>
      obtain ⟨i, -, rfl⟩ := tryEdit_removeWorkspace_ok h
      refine tablesWellFormed_of_sublist hd ?_
      have hsub : ((d.workspaces.eraseIdx i).flatMap (·.tables)).Sublist d.tables :=
        (List.eraseIdx_sublist _ _).flatMap _
      split <;> simpa [tables] using hsub
  | addTable wk t =>
      obtain ⟨-, ws, hb, rfl⟩ := tryEdit_addTable_ok h
      have hperm : (ws.flatMap (·.tables)).Perm (t :: d.tables) :=
        flatMap_borrowFirst_perm (fun _ => rfl) hb
      -- the new table, or one of the old ones
      have hmem (t' : Table) (ht' : t' ∈ ws.flatMap (·.tables)) : t' = t ∨ t' ∈ d.tables :=
        List.mem_cons.1 (hperm.subset ht')
      intro t' ht'
      have ht' : t' ∈ ws.flatMap (·.tables) := by
        split at ht' <;> exact ht'
      rcases hmem t' ht' with rfl | ht'
      · exact hp.2.1 t' rfl
      · exact hd t' ht'
  | renameTable k name =>
      refine tablesWellFormed_withTable hd (fun t t' _ _ ht hrun => ?_) h
      cases hrun
      exact ⟨ht.columns, ht.rows, ht.cells, ht.widths, ht.widthsAtLeastMin, ht.noNullCells⟩
  | removeTable k =>
      obtain ⟨owner, t, -, fallback, ws, hb, rfl⟩ := tryEdit_removeTable_ok h
      refine tablesWellFormed_of_sublist hd ?_
      have hsub : (ws.flatMap (·.tables)).Sublist d.tables :=
        flatMap_borrowFirst_sublist (fun _ => List.filter_sublist) hb
      split <;> simpa [tables] using hsub
  | addRow tk r =>
      exact tablesWellFormed_withTable hd (fun t t' htd hk ht hrun =>
        ht.addRowStep (hp.2.2 (tk, r) rfl t htd hk) hrun) h
  | removeRow tk rk =>
      exact tablesWellFormed_withTable hd (fun _ _ _ _ ht hrun => ht.removeRowStep hrun) h
  | addColumn tk ck name kind options =>
      exact tablesWellFormed_withTable hd (fun _ _ _ _ ht hrun => ht.addColumnStep hrun) h
  | renameColumn tk ck name =>
      exact tablesWellFormed_withTable hd (fun _ _ _ _ ht hrun => ht.renameColumnStep hrun) h
  | moveColumn tk ck position =>
      exact tablesWellFormed_withTable hd (fun _ _ _ _ ht hrun => ht.moveColumnStep hrun) h
  | removeColumn tk ck =>
      obtain ⟨d₁, h₁, rfl⟩ := tryEdit_removeColumn_ok h
      have hd₁ := tablesWellFormed_withTable hd
        (fun _ _ _ _ ht hrun => ht.removeColumnStep hrun) h₁
      split <;> exact hd₁
  | editCell tk rk ck v =>
      exact tablesWellFormed_withTable hd (fun _ _ _ _ ht hrun => ht.editCellStep hrun) h
  | resizeColumn tk ck width =>
      exact tablesWellFormed_withTable hd (fun _ _ _ _ ht hrun => ht.resizeColumnStep hrun) h
  | selectWorkspace k =>
      obtain ⟨w, -, rfl⟩ := tryEdit_selectWorkspace_ok h
      exact hd
  | selectTable wk tk =>
      obtain ⟨w, -, -, rfl⟩ := tryEdit_selectTable_ok h
      exact hd
  | setGroupBy c =>
      rw [tryEdit_setGroupBy_ok h]
      exact hd
  | goToLevel l =>
      cases h
      exact hd
  | toggleSidebar =>
      cases h
      exact hd
  | setSeparator c =>
      cases h
      exact hd

end Document

open Document in
/-- **Every action keeps a document well formed** when what it adds is well formed and
    an added workspace brings table keys that are distinct and not yet taken. -/
theorem wellFormed_execute (d : Document) (a : Action) (hd : d.WellFormed)
    (hp : d.PayloadWellFormed a) (hf : d.FreshTables a) : (d.execute a).WellFormed := by
  refine ⟨hd.keys.execute hf, ?_⟩
  -- only an edit changes the tables
  cases a with
  | select p =>
      cases p with
      | none => exact hd.tables
      | some p =>
          rw [execute_select_some]
          simpa [tables] using hd.tables
  | changeView v p g =>
      have hws := (execute_changeView d v p g).1
      cases p with
      | none => simpa [tables, hws] using hd.tables
      | some p => simpa [tables, hws] using hd.tables
  | edit e =>
      rcases execute_edit_cases d e with ⟨u, h⟩ | h
      · exact tablesWellFormed_tryEdit hd.tables hp h
      · rw [h]
        exact hd.tables
  | unknown => exact hd.tables

/-- A document of one workspace holding one empty table. -/
def oneTable : Document := { workspaces := [⟨⟨"a"⟩, "A", [Table.empty ⟨"t"⟩ "T"]⟩] }

/-- Adds a table with a column, a row holding a cell of it, and a width for it. -/
def addFilledTable : Action :=
  .edit (.addTable ⟨"a"⟩ ⟨⟨"u"⟩, "U", [⟨⟨"c"⟩, "C", .text, [], 0⟩],
    [⟨⟨"r"⟩, [(⟨"c"⟩, .str "x")]⟩], [(⟨"c"⟩, 100)]⟩)

theorem wellFormed_execute_addFilledTable :
    oneTable.WellFormed ∧ oneTable.PayloadWellFormed addFilledTable ∧
      oneTable.FreshTables addFilledTable ∧ (oneTable.execute addFilledTable).WellFormed :=
  ⟨by decide, by decide, by decide,
    wellFormed_execute oneTable addFilledTable (by decide) (by decide) (by decide)⟩

/-- Adds a workspace holding a table of the key `oneTable`'s table has. -/
def addSharedTable : Action :=
  .edit (.addWorkspace ⟨⟨"b"⟩, "B", [Table.empty ⟨"t"⟩ "T2"]⟩)

/-- Adding a well-formed workspace whose table takes a key already held breaks
    well-formedness: it is the freshness of its table keys that is missing. -/
theorem wellFormed_execute_fails_of_shared_table_key :
    oneTable.WellFormed ∧ oneTable.PayloadWellFormed addSharedTable ∧
      ¬ oneTable.FreshTables addSharedTable ∧ ¬ (oneTable.execute addSharedTable).WellFormed := by
  decide

end Tabula
