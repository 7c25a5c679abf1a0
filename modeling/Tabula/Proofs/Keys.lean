import Mathlib.Data.List.Nodup
import Tabula.Proofs.Steps
/-! # Distinct keys

    Workspace keys pairwise distinct, and table keys pairwise distinct across all
    workspaces: the lookups by key (`workspace?`, `findTable`, the borrow of a table) then
    find the one item of a key.

    Every action keeps keys distinct, except adding a workspace whose tables bring keys
    that some table already has: adding a workspace checks the workspace's own key only,
    where adding a table checks the table's key against every workspace.  `FreshTables`
    states that an action brings no such key, and `UniqueKeys.execute` is the step lemma. -/

namespace Tabula

namespace Table

/-- Every table step keeps the key of its table. -/
theorem key_eq_of_addRowStep {r : Row} {t t' : Table} {u : Unit}
    (h : (addRowStep r).run t = .ok u t') : t'.key = t.key := by
  rw [(addRowStep_run_ok h).2]

theorem key_eq_of_removeRowStep {k : Key} {t t' : Table} {u : Unit}
    (h : (removeRowStep k).run t = .ok u t') : t'.key = t.key := by
  rw [removeRowStep_run_ok h]

theorem key_eq_of_addColumnStep {k : Key} {name : String} {kind : ColumnKind}
    {options : List String} {t t' : Table} {u : Unit}
    (h : (addColumnStep k name kind options).run t = .ok u t') : t'.key = t.key := by
  rw [(addColumnStep_run_ok h).2]

theorem key_eq_of_renameColumnStep {k : Key} {name : String} {t t' : Table} {u : Unit}
    (h : (renameColumnStep k name).run t = .ok u t') : t'.key = t.key := by
  obtain ⟨cs, -, rfl⟩ := renameColumnStep_run_ok h
  rfl

theorem key_eq_of_moveColumnStep {k : Key} {position : Nat} {t t' : Table} {u : Unit}
    (h : (moveColumnStep k position).run t = .ok u t') : t'.key = t.key :=
  (moveColumn_eq_ok (moveColumnStep_run_ok h)).1

theorem key_eq_of_removeColumnStep {k : Key} {t t' : Table} {u : Unit}
    (h : (removeColumnStep k).run t = .ok u t') : t'.key = t.key := by
  rw [(removeColumnStep_run_ok h).2]
  rfl

theorem key_eq_of_editCellStep {rk ck : Key} {v : Json.Value} {t t' : Table} {u : Unit}
    (h : (editCellStep rk ck v).run t = .ok u t') : t'.key = t.key := by
  obtain ⟨-, rows, -, rfl⟩ := editCellStep_run_ok h
  rfl

theorem key_eq_of_resizeColumnStep {k : Key} {width : Nat} {t t' : Table} {u : Unit}
    (h : (resizeColumnStep k width).run t = .ok u t') : t'.key = t.key := by
  rw [(resizeColumnStep_run_ok h).2]

end Table

/-- The keys of a workspace's tables. -/
def Workspace.tableKeys (w : Workspace) : List Key := w.tables.map (·.key)

/-- A workspace holds a table of a key exactly when the key is among its tables' keys. -/
theorem Workspace.hasTable_iff_mem (w : Workspace) (k : Key) :
    w.hasTable k = true ↔ k ∈ w.tableKeys := by
  simp [Workspace.hasTable, Workspace.tableKeys]

theorem Workspace.hasTable_of_mem {w : Workspace} {t : Table} (h : t ∈ w.tables) :
    w.hasTable t.key = true :=
  (w.hasTable_iff_mem t.key).2 (List.mem_map_of_mem h)

namespace Document

/-- The keys of the workspaces, in order. -/
def workspaceKeys (d : Document) : List Key := d.workspaces.map (·.key)

/-- The keys of all tables, workspace by workspace. -/
def tableKeys (d : Document) : List Key := d.workspaces.flatMap Workspace.tableKeys

/-- Workspace keys are pairwise distinct, and so are table keys across all workspaces. -/
structure UniqueKeys (d : Document) : Prop where
  workspaces : d.workspaceKeys.Nodup
  tables : d.tableKeys.Nodup

instance (d : Document) : Decidable (UniqueKeys d) :=
  decidable_of_iff (d.workspaceKeys.Nodup ∧ d.tableKeys.Nodup)
    ⟨fun ⟨h₁, h₂⟩ => ⟨h₁, h₂⟩, fun h => ⟨h.1, h.2⟩⟩

end Document

/-- The keys of the tables an action brings along: those of an added workspace. -/
def Action.broughtTableKeys : Action → List Key
  | .edit (.addWorkspace w) => w.tableKeys
  | _ => []

namespace Document

/-- An action brings tables whose keys are pairwise distinct and held by no table of the
    document. -/
def FreshTables (d : Document) (a : Action) : Prop :=
  a.broughtTableKeys.Nodup ∧ ∀ k ∈ a.broughtTableKeys, k ∉ d.tableKeys

instance (d : Document) (a : Action) : Decidable (d.FreshTables a) :=
  inferInstanceAs (Decidable (_ ∧ _))

/-- Every action of a run brings fresh tables, each judged on the document it meets. -/
def FreshRun : Document → List Action → Prop
  | _, [] => True
  | d, a :: as => d.FreshTables a ∧ FreshRun (d.execute a) as

instance decidableFreshRun : (d : Document) → (as : List Action) → Decidable (d.FreshRun as)
  | _, [] => isTrue trivial
  | d, a :: as =>
    have := decidableFreshRun (d.execute a) as
    inferInstanceAs (Decidable (d.FreshTables a ∧ (d.execute a).FreshRun as))

/-- No table of a key is found exactly when no table has the key. -/
theorem findTable_eq_none_iff (d : Document) (k : Key) :
    d.findTable k = none ↔ k ∉ d.tableKeys := by
  simp [findTable, tableKeys, Workspace.tableKeys, Workspace.table?, List.findSome?_eq_none_iff]

theorem hasWorkspace_eq_false_iff (d : Document) (k : Key) :
    d.hasWorkspace k = false ↔ k ∉ d.workspaceKeys := by
  simp [hasWorkspace, workspaceKeys]

/-- With distinct workspace keys, a workspace is the one found by its key. -/
theorem workspace?_eq_of_mem {d : Document} (hu : d.workspaceKeys.Nodup) {w : Workspace}
    (hw : w ∈ d.workspaces) : d.workspace? w.key = some w := by
  obtain ⟨ws, nav, settings⟩ := d
  unfold workspace?
  unfold workspaceKeys at hu
  induction ws with
  | nil => cases hw
  | cons x ws ih =>
      rw [List.map_cons, List.nodup_cons] at hu
      rcases List.mem_cons.1 hw with rfl | hw
      · simp
      · have hne : x.key ≠ w.key := fun h => hu.1 (h ▸ List.mem_map_of_mem hw)
        simp [hne, ih hu.2 hw]

/-- With distinct table keys, two workspaces holding a table of one key are the same. -/
theorem eq_of_mem_tableKeys {d : Document} (hu : d.tableKeys.Nodup) {x y : Workspace} {k : Key}
    (hx : x ∈ d.workspaces) (hy : y ∈ d.workspaces) (hkx : k ∈ x.tableKeys)
    (hky : k ∈ y.tableKeys) : x = y := by
  obtain ⟨ws, nav, settings⟩ := d
  unfold tableKeys at hu
  induction ws with
  | nil => cases hx
  | cons z ws ih =>
      rw [List.flatMap_cons, List.nodup_append] at hu
      obtain ⟨-, hrest, hdisj⟩ := hu
      -- a key of a later workspace is no key of the first one
      have hout (w : Workspace) (hw : w ∈ ws) (hk : k ∈ w.tableKeys) : k ∉ z.tableKeys :=
        fun hz => hdisj k hz k (List.mem_flatMap.2 ⟨w, hw, hk⟩) rfl
      rcases List.mem_cons.1 hx with rfl | hx' <;> rcases List.mem_cons.1 hy with rfl | hy'
      · rfl
      · exact absurd hkx (hout y hy' hky)
      · exact absurd hky (hout x hx' hkx)
      · exact ih hrest hx' hy'

/-- The table found by a key lies in a workspace of the key given with it. -/
theorem findTable_eq_some {d : Document} {k owner : Key} {t : Table}
    (h : d.findTable k = some (owner, t)) :
    ∃ w ∈ d.workspaces, w.key = owner ∧ k ∈ w.tableKeys := by
  obtain ⟨w, hw, hwt⟩ := List.exists_of_findSome?_eq_some h
  obtain ⟨t', ht', heq⟩ := Option.map_eq_some_iff.1 hwt
  obtain ⟨rfl, rfl⟩ := Prod.mk.inj heq
  have hkey : t'.key = k := by simpa using List.find?_some ht'
  exact ⟨w, hw, rfl, hkey ▸ List.mem_map_of_mem (List.mem_of_find?_eq_some ht')⟩

section Preserve

variable {d d' : Document}

/-- Keys that stay as they were stay distinct. -/
theorem UniqueKeys.of_keys_eq (hu : d.UniqueKeys) (hw : d'.workspaceKeys = d.workspaceKeys)
    (ht : d'.tableKeys = d.tableKeys) : d'.UniqueKeys :=
  ⟨hw ▸ hu.workspaces, ht ▸ hu.tables⟩

/-- Keys of which some were dropped stay distinct. -/
theorem UniqueKeys.of_sublist (hu : d.UniqueKeys) (hw : d'.workspaceKeys.Sublist d.workspaceKeys)
    (ht : d'.tableKeys.Sublist d.tableKeys) : d'.UniqueKeys :=
  ⟨hu.workspaces.sublist hw, hu.tables.sublist ht⟩

theorem UniqueKeys.of_workspaces_eq (hu : d.UniqueKeys) (h : d'.workspaces = d.workspaces) :
    d'.UniqueKeys :=
  hu.of_keys_eq (by simp only [workspaceKeys, h]) (by simp only [tableKeys, h])

/-- Changing tables through steps that keep table keys keeps every key. -/
theorem keys_eq_of_tablesChanged {k : Key} {step : Table → Table → Prop}
    (hstep : ∀ t t', step t t' → t'.key = t.key)
    (h : List.Forall₂ (TablesChanged k step) d.workspaces d'.workspaces) :
    d'.workspaceKeys = d.workspaceKeys ∧ d'.tableKeys = d.tableKeys := by
  have hkeys (w w' : Workspace) (hw : TablesChanged k step w w') :=
    TablesChanged.keys hstep hw
  refine ⟨map_eq_of_forall₂ (fun w w' hw => (hkeys w w' hw).1) h, ?_⟩
  unfold tableKeys
  rw [List.flatMap_def, List.flatMap_def,
    map_eq_of_forall₂ (g := Workspace.tableKeys) (fun w w' hw => (hkeys w w' hw).2) h]

/-- A table step that keeps the key of its table keeps keys distinct. -/
theorem UniqueKeys.withTable {α : Type} {k : Key} {act : EStateM EditError Table α} {a : α}
    (hu : d.UniqueKeys) (hkey : ∀ t t', act.run t = .ok a t' → t'.key = t.key)
    (h : (withTable k act).run d = .ok a d') : d'.UniqueKeys := by
  obtain ⟨-, -, hws⟩ := withTable_run_ok h
  obtain ⟨hw, ht⟩ := keys_eq_of_tablesChanged hkey hws
  exact hu.of_keys_eq hw ht

/-- A change of one workspace that keeps its key and drops some of its tables keeps keys
    distinct. -/
theorem UniqueKeys.borrowWorkspace {β : Type} {k : Key} {f : Workspace → β × Workspace}
    {b : β} {ws : List Workspace} (hu : d.UniqueKeys)
    (h : borrowFirst (·.key == k) f d.workspaces = some (b, ws))
    (hkey : ∀ w, (f w).2.key = w.key) (htables : ∀ w, (f w).2.tableKeys.Sublist w.tableKeys) :
    ({ d with workspaces := ws } : Document).UniqueKeys := by
  have hw : ws.map (·.key) = d.workspaces.map (·.key) := map_borrowFirst hkey h
  refine hu.of_sublist ?_ (flatMap_borrowFirst_sublist htables h)
  unfold workspaceKeys
  rw [hw]

/-- Adding a workspace of a new key whose tables bring fresh keys keeps keys distinct. -/
theorem UniqueKeys.addWorkspace {w : Workspace} (hu : d.UniqueKeys)
    (hw : d.hasWorkspace w.key = false) (hf : d.FreshTables (.edit (.addWorkspace w))) :
    ({ d with workspaces := d.workspaces ++ [w] } : Document).UniqueKeys := by
  obtain ⟨hnd, hfresh⟩ := hf
  have hnew : w.key ∉ d.workspaceKeys := (hasWorkspace_eq_false_iff d w.key).1 hw
  constructor
  · show ((d.workspaces ++ [w]).map (·.key)).Nodup
    rw [List.map_append]
    exact hu.workspaces.append (List.nodup_singleton _) (List.disjoint_singleton.2 hnew)
  · show ((d.workspaces ++ [w]).flatMap Workspace.tableKeys).Nodup
    rw [List.flatMap_append, List.flatMap_singleton]
    exact hu.tables.append hnd fun k hk hk' => hfresh k hk' hk

/-- Adding a table of a new key to a workspace keeps keys distinct. -/
theorem UniqueKeys.addTable {wk : Key} {t : Table} {ws : List Workspace} (hu : d.UniqueKeys)
    (hnew : d.findTable t.key = none)
    (h : borrowFirst (·.key == wk) (fun w => ((), { w with tables := w.tables ++ [t] }))
      d.workspaces = some ((), ws)) :
    ({ d with workspaces := ws } : Document).UniqueKeys := by
  have hw : ws.map (·.key) = d.workspaces.map (·.key) := map_borrowFirst (fun _ => rfl) h
  have hperm : (ws.flatMap Workspace.tableKeys).Perm (t.key :: d.tableKeys) :=
    flatMap_borrowFirst_perm (fun w => by simp [Workspace.tableKeys]) h
  refine ⟨by unfold workspaceKeys; rw [hw]; exact hu.workspaces, ?_⟩
  show (ws.flatMap Workspace.tableKeys).Nodup
  rw [hperm.nodup_iff, List.nodup_cons]
  exact ⟨(findTable_eq_none_iff d t.key).1 hnew, hu.tables⟩

/-- Removing a workspace keeps keys distinct. -/
theorem UniqueKeys.eraseIdx (hu : d.UniqueKeys) (i : Nat) :
    ({ d with workspaces := d.workspaces.eraseIdx i } : Document).UniqueKeys :=
  hu.of_sublist ((List.eraseIdx_sublist _ _).map _) ((List.eraseIdx_sublist _ _).flatMap _)

/-- **Step lemma** for edits: a successful edit that brings fresh tables keeps keys
    distinct. -/
theorem UniqueKeys.tryEdit (hu : d.UniqueKeys) {e : Edit} (hf : d.FreshTables (.edit e))
    {u : Unit} (h : (tryEdit e).run d = .ok u d') : d'.UniqueKeys := by
  cases e with
  | addWorkspace w =>
      obtain ⟨hw, rfl⟩ := tryEdit_addWorkspace_ok h
      exact hu.addWorkspace hw hf
  | renameWorkspace k name =>
      obtain ⟨ws, hb, rfl⟩ := withWorkspace_run_ok h
      exact hu.borrowWorkspace hb (fun _ => rfl) (fun _ => List.Sublist.refl _)
  | removeWorkspace k =>
      obtain ⟨i, -, rfl⟩ := tryEdit_removeWorkspace_ok h
      refine (hu.eraseIdx i).of_workspaces_eq ?_
      split <;> simp
  | addTable wk t =>
      obtain ⟨hnew, ws, hb, rfl⟩ := tryEdit_addTable_ok h
      refine (hu.addTable hnew hb).of_workspaces_eq ?_
      split <;> rfl
  | renameTable k name =>
      exact hu.withTable (fun t t' ht => by cases ht; rfl) h
  | removeTable k =>
      obtain ⟨owner, t, -, fallback, ws, hb, rfl⟩ := tryEdit_removeTable_ok h
      refine (hu.borrowWorkspace hb (fun _ => rfl) (fun _ => List.filter_sublist.map _)).of_workspaces_eq ?_
      split <;> simp
  | addRow tk r => exact hu.withTable (fun _ _ => Table.key_eq_of_addRowStep) h
  | removeRow tk rk => exact hu.withTable (fun _ _ => Table.key_eq_of_removeRowStep) h
  | addColumn tk ck name kind options =>
      exact hu.withTable (fun _ _ => Table.key_eq_of_addColumnStep) h
  | renameColumn tk ck name => exact hu.withTable (fun _ _ => Table.key_eq_of_renameColumnStep) h
  | moveColumn tk ck position => exact hu.withTable (fun _ _ => Table.key_eq_of_moveColumnStep) h
  | removeColumn tk ck =>
      obtain ⟨d₁, h₁, rfl⟩ := tryEdit_removeColumn_ok h
      refine (hu.withTable (fun _ _ => Table.key_eq_of_removeColumnStep) h₁).of_workspaces_eq ?_
      split <;> rfl
  | editCell tk rk ck v => exact hu.withTable (fun _ _ => Table.key_eq_of_editCellStep) h
  | resizeColumn tk ck width => exact hu.withTable (fun _ _ => Table.key_eq_of_resizeColumnStep) h
  | selectWorkspace k =>
      obtain ⟨w, -, rfl⟩ := tryEdit_selectWorkspace_ok h
      exact hu.of_workspaces_eq rfl
  | selectTable wk tk =>
      obtain ⟨w, -, -, rfl⟩ := tryEdit_selectTable_ok h
      exact hu.of_workspaces_eq rfl
  | setGroupBy c =>
      rw [tryEdit_setGroupBy_ok h]
      exact hu.of_workspaces_eq rfl
  | goToLevel l =>
      cases h
      exact hu.of_workspaces_eq rfl
  | toggleSidebar =>
      cases h
      exact hu.of_workspaces_eq rfl
  | setSeparator c =>
      cases h
      exact hu.of_workspaces_eq rfl

/-- **Step lemma**: every action that brings fresh tables keeps keys distinct. -/
theorem UniqueKeys.execute (hu : d.UniqueKeys) {a : Action} (hf : d.FreshTables a) :
    (d.execute a).UniqueKeys := by
  cases a with
  | select p =>
      cases p with
      | none => exact hu.of_workspaces_eq rfl
      | some p => exact hu.of_workspaces_eq (navigate_workspaces d p)
  | changeView v p g =>
      refine hu.of_workspaces_eq ((execute_changeView d v p g).1.trans ?_)
      cases p <;> simp
  | edit e =>
      rcases execute_edit_cases d e with ⟨u, h⟩ | h
      · exact hu.tryEdit hf h
      · rw [h]
        exact hu
  | unknown => exact hu

/-- **Run lemma**: keys stay distinct along a run whose actions bring fresh tables. -/
theorem UniqueKeys.run (hu : d.UniqueKeys) {as : List Action} (hf : d.FreshRun as) :
    (d.run as).UniqueKeys := by
  induction as generalizing d with
  | nil => exact hu
  | cons a as ih =>
      rw [run_cons]
      exact ih (hu.execute hf.1) hf.2

end Preserve

end Document

end Tabula
