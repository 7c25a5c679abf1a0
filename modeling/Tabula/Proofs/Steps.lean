import Tabula.Proofs.Borrow
import Tabula.Command.Execute
/-! # What a successful edit does

    The equations later proofs use instead of unfolding `Document.execute` and
    `Document.tryEdit`: one lemma per edit, saying what it checked and what document it
    left when it succeeded.

    * an action runs its edit through `applyEdit`: the document it leaves is the one the
      in-place step leaves when that succeeds, and the old one when it fails
      (`execute_edit_cases`);
    * the borrow of a table changes only tables of its key, each by one successful run of
      the table step (`withTable_run_ok`, `TablesChanged`); a step that succeeds on the
      first table of its key replaces that table alone (`withTable_run_of_findTable`,
      `ReplacesFirstTable`), and so does the edit that runs it (`execute_edit_of_withTable`);
    * each table step and each edit of the document has its own lemma
      (`Table.addRowStep_run_ok`, `tryEdit_addTable_ok`, ...). -/

namespace Tabula

namespace Document

@[simp] theorem withNav_workspaces (d : Document) (n : Navigation) :
    (d.withNav n).workspaces = d.workspaces := rfl

@[simp] theorem withNav_nav (d : Document) (n : Navigation) : (d.withNav n).nav = n := rfl

@[simp] theorem withNav_settings (d : Document) (n : Navigation) :
    (d.withNav n).settings = d.settings := rfl

@[simp] theorem withNav_withNav (d : Document) (n n' : Navigation) :
    (d.withNav n).withNav n' = d.withNav n' := rfl

@[simp] theorem clearRemovedGroupBy_workspaces (d : Document) :
    d.clearRemovedGroupBy.workspaces = d.workspaces := by
  unfold clearRemovedGroupBy
  split
  · split <;> rfl
  · rfl

@[simp] theorem clearRemovedGroupBy_settings (d : Document) :
    d.clearRemovedGroupBy.settings = d.settings := by
  unfold clearRemovedGroupBy
  split
  · split <;> rfl
  · rfl

/-- Forgetting a removed grouping column keeps the place and the view. -/
@[simp] theorem clearRemovedGroupBy_nav_workspace (d : Document) :
    d.clearRemovedGroupBy.nav.workspace = d.nav.workspace := by
  unfold clearRemovedGroupBy
  split
  · split <;> rfl
  · rfl

@[simp] theorem clearRemovedGroupBy_nav_table (d : Document) :
    d.clearRemovedGroupBy.nav.table = d.nav.table := by
  unfold clearRemovedGroupBy
  split
  · split <;> rfl
  · rfl

/-- The grouping column is kept only while some table has it. -/
theorem clearRemovedGroupBy_nav_groupBy (d : Document) :
    d.clearRemovedGroupBy.nav.groupBy = d.nav.groupBy.filter d.columnExists := by
  unfold clearRemovedGroupBy
  split
  · rename_i c hc
    split
    · rename_i he
      simp [hc, Option.filter, he]
    · rename_i he
      simp [hc, Option.filter, he]
  · rename_i hc
    simp [hc]

theorem execute_select_none (d : Document) : d.execute (.select none) = d.withNav d.nav.home :=
  rfl

theorem execute_select_some (d : Document) (p : Path) :
    d.execute (.select (some p)) = d.navigate p := rfl

theorem execute_unknown (d : Document) : d.execute .unknown = d := rfl

theorem navigate_eq (d : Document) (p : Path) :
    d.navigate p = match resolvePath d.workspaces d.nav p with
      | some n => d.withNav n
      | none => d := rfl

/-- Going to a path changes the navigation only. -/
theorem navigate_cases (d : Document) (p : Path) :
    (∃ n, resolvePath d.workspaces d.nav p = some n ∧ d.navigate p = d.withNav n) ∨
      d.navigate p = d := by
  rw [navigate_eq]
  split
  · rename_i n hn
    exact .inl ⟨n, hn, rfl⟩
  · exact .inr rfl

@[simp] theorem navigate_workspaces (d : Document) (p : Path) :
    (d.navigate p).workspaces = d.workspaces := by
  rcases navigate_cases d p with ⟨n, -, h⟩ | h <;> simp [h]

/-- Changing the view goes to the path first and then changes only the view and the
    grouping column. -/
theorem execute_changeView (d : Document) (v : View) (p : Option Path) (g : Option String) :
    let d₁ := match p with
      | some p => d.navigate p
      | none => d
    (d.execute (.changeView v p g)).workspaces = d₁.workspaces ∧
      (d.execute (.changeView v p g)).nav.workspace = d₁.nav.workspace ∧
      (d.execute (.changeView v p g)).nav.table = d₁.nav.table := by
  intro d₁
  dsimp only [execute]
  split
  · split
    · split
      · split <;> exact ⟨rfl, rfl, rfl⟩
      · exact ⟨rfl, rfl, rfl⟩
    · exact ⟨rfl, rfl, rfl⟩
  · exact ⟨rfl, rfl, rfl⟩

theorem run_nil (d : Document) : d.run [] = d := rfl

theorem run_cons (d : Document) (a : Action) (as : List Action) :
    d.run (a :: as) = (d.execute a).run as := rfl

theorem execute_edit (d : Document) (e : Edit) :
    d.execute (.edit e) = match d.applyEdit e with
      | .ok next => next
      | .error _ => d := rfl

theorem applyEdit_eq_error {d d' : Document} {e : Edit} {err : EditError}
    (h : (tryEdit e).run d = .error err d') : d.applyEdit e = .error err := by
  unfold applyEdit
  rw [h]

theorem applyEdit_eq_ok {d d' : Document} {e : Edit} {u : Unit}
    (h : (tryEdit e).run d = .ok u d') : d.applyEdit e = .ok d' := by
  unfold applyEdit
  rw [h]

/-- An edit that is refused leaves the executed document as it was. -/
theorem execute_edit_of_error {d d' : Document} {e : Edit} {err : EditError}
    (h : (tryEdit e).run d = .error err d') : d.execute (.edit e) = d := by
  rw [execute_edit, applyEdit_eq_error h]

/-- An edit that succeeds in place gives the executed document. -/
theorem execute_edit_of_ok {d d' : Document} {e : Edit} {u : Unit}
    (h : (tryEdit e).run d = .ok u d') : d.execute (.edit e) = d' := by
  rw [execute_edit, applyEdit_eq_ok h]

/-- The executed document of an edit is the one it leaves, or the one before. -/
theorem execute_edit_cases (d : Document) (e : Edit) :
    (∃ u, (tryEdit e).run d = .ok u (d.execute (.edit e))) ∨ d.execute (.edit e) = d := by
  cases h : (tryEdit e).run d with
  | ok u d' => exact .inl ⟨u, by rw [execute_edit_of_ok h]⟩
  | error err d' => exact .inr (execute_edit_of_error h)

/-! ## Borrows -/

/-- The borrow of a workspace succeeds by lending the first workspace of the key. -/
theorem withWorkspace_run_ok {β : Type} {k : Key} {act : Workspace → β × Workspace}
    {d d' : Document} {b : β} (h : (withWorkspace k act).run d = .ok b d') :
    ∃ ws, borrowFirst (·.key == k) act d.workspaces = some (b, ws) ∧
      d' = { d with workspaces := ws } := by
  simp only [EStateM.run, withWorkspace] at h
  split at h
  · cases h
  · rename_i b' ws hb
    cases h
    exact ⟨ws, hb, rfl⟩

/-- Two workspaces alike but for tables of key `k` that `step` turned into new ones. -/
def TablesChanged (k : Key) (step : Table → Table → Prop) (w w' : Workspace) : Prop :=
  w'.key = w.key ∧ w'.name = w.name ∧
    List.Forall₂ (fun t t' => t' = t ∨ t.key = k ∧ step t t') w.tables w'.tables

theorem tablesChanged_refl (k : Key) (step : Table → Table → Prop) (w : Workspace) :
    TablesChanged k step w w :=
  ⟨rfl, rfl, List.forall₂_same.2 fun _ _ => .inl rfl⟩

/-- **The borrow of a table**: when it succeeds, the navigation and settings are as they
    were, and every workspace is the old one but for tables of the key that a successful
    run of the step turned into new ones. -/
theorem withTable_run_ok {α : Type} {k : Key} {act : EStateM EditError Table α}
    {d d' : Document} {a : α} (h : (withTable k act).run d = .ok a d') :
    d'.nav = d.nav ∧ d'.settings = d.settings ∧
      List.Forall₂ (TablesChanged k fun t t' => act.run t = .ok a t')
        d.workspaces d'.workspaces := by
  simp only [EStateM.run] at h
  unfold withTable at h
  dsimp only at h
  split at h
  · cases h
  · rename_i a' s ws hb
    cases h
    refine ⟨rfl, rfl, (borrowSome_forall₂ hb).imp fun w w' hw => ?_⟩
    rcases hw with rfl | hw
    · exact tablesChanged_refl _ _ _
    · obtain ⟨⟨r, ts⟩, hts, heq⟩ := Option.map_eq_some_iff.1 hw
      obtain ⟨rfl, rfl⟩ := Prod.mk.inj heq
      refine ⟨rfl, rfl, (borrowSome_forall₂ hts).imp fun t t' ht => ?_⟩
      rcases ht with rfl | ht
      · exact .inl rfl
      · split at ht
        · rename_i hkey
          obtain ⟨hr, rfl⟩ := Prod.mk.inj (Option.some.inj ht)
          have hleft : stateLeft (act.run t) = s := by
            rw [hr]
            rfl
          exact .inr ⟨by simpa using hkey, hleft ▸ hr⟩
        · cases ht
  · cases h

/-- **The first table of a key**: the workspaces before its own hold no table of the key,
    and in its own workspace the tables before it have other keys. -/
theorem findTable_eq_some_split {d : Document} {k wk : Key} {t : Table}
    (h : d.findTable k = some (wk, t)) :
    ∃ pre w post front back, (∀ v ∈ pre, v.hasTable k = false) ∧ (∀ s ∈ front, s.key ≠ k) ∧
      t.key = k ∧ w.key = wk ∧ d.workspaces = pre ++ w :: post ∧
      w.tables = front ++ t :: back := by
  obtain ⟨pre, w, post, hws, hw, hpre⟩ := List.findSome?_eq_some_iff.1 h
  obtain ⟨t', ht', heq⟩ := Option.map_eq_some_iff.1 hw
  obtain ⟨rfl, rfl⟩ := Prod.mk.inj heq
  obtain ⟨hkey, front, back, hts, hfront⟩ := List.find?_eq_some_iff_append.1 ht'
  refine ⟨pre, w, post, front, back, fun v hv => ?_, fun s hs => by simpa using hfront s hs,
    by simpa using hkey, rfl, hws, hts⟩
  have hnone : v.table? k = none := Option.map_eq_none_iff.1 (hpre v hv)
  simpa [Workspace.hasTable, Workspace.table?, List.find?_eq_none] using hnone

/-- `d'` is `d` with one table replaced: the first table of key `k`, searching the
    workspaces in order and then their tables, is `t` in `d` and `t'` in `d'`.  Every
    other table, the keys and names of the workspaces, the navigation and the settings
    are as they were. -/
def ReplacesFirstTable (k : Key) (t t' : Table) (d d' : Document) : Prop :=
  d'.nav = d.nav ∧ d'.settings = d.settings ∧
    ∃ pre w post front back, (∀ v ∈ pre, v.hasTable k = false) ∧ (∀ s ∈ front, s.key ≠ k) ∧
      t.key = k ∧ d.workspaces = pre ++ w :: post ∧ w.tables = front ++ t :: back ∧
      d'.workspaces = pre ++ { w with tables := front ++ t' :: back } :: post

/-- **A table step on the first table of its key**: when the step succeeds on the table
    the key finds, the borrow succeeds and replaces that table and nothing else. -/
theorem withTable_run_of_findTable {α : Type} {k wk : Key} {t t' : Table} {a : α}
    {act : EStateM EditError Table α} {d : Document}
    (hfind : d.findTable k = some (wk, t)) (hact : act.run t = .ok a t') :
    ∃ d', (withTable k act).run d = .ok a d' ∧ ReplacesFirstTable k t t' d d' := by
  obtain ⟨pre, w, post, front, back, hpre, hfront, hkey, -, hws, hts⟩ :=
    findTable_eq_some_split hfind
  refine ⟨{ d with workspaces := pre ++ { w with tables := front ++ t' :: back } :: post }, ?_,
    rfl, rfl, pre, w, post, front, back, hpre, hfront, hkey, hws, hts, rfl⟩
  -- no workspace before its own lends a table, and its own lends it to the step
  have hskip (v : Workspace) (hv : v ∈ pre) :
      borrowFirst (·.key == k) (fun s => (act.run s, stateLeft (act.run s))) v.tables = none := by
    have hout : ∀ s ∈ v.tables, s.key ≠ k := by
      simpa [Workspace.hasTable] using hpre v hv
    rw [borrowFirst, borrowSome_eq_none]
    intro s hs
    simp [hout s hs]
  have hlend : borrowFirst (·.key == k) (fun s => (act.run s, stateLeft (act.run s))) w.tables =
      some (.ok a t', front ++ t' :: back) := by
    rw [hts]
    refine borrowSome_append_cons (fun s hs => ?_) ?_
    · simp [hfront s hs]
    · simp [hkey, hact, stateLeft]
  rw [EStateM.run]
  unfold withTable
  dsimp only
  rw [hws, borrowSome_append_cons (b := .ok a t') (y := { w with tables := front ++ t' :: back })
    (fun v hv => by simp [hskip v hv]) (by simp [hlend])]

/-- An edit that runs a step on the first table of a key, when the step succeeds on that
    table, succeeds and replaces that table alone. -/
theorem execute_edit_of_withTable {d : Document} (e : Edit) {k wk : Key} {t t' : Table}
    {act : EStateM EditError Table Unit} (he : tryEdit e = withTable k act)
    (hfind : d.findTable k = some (wk, t)) (hact : act.run t = .ok () t') :
    d.applyEdit e = .ok (d.execute (.edit e)) ∧
      ReplacesFirstTable k t t' d (d.execute (.edit e)) := by
  obtain ⟨d', hrun, hrep⟩ := withTable_run_of_findTable hfind hact
  have hedit : (tryEdit e).run d = .ok () d' := by
    rw [he]
    exact hrun
  rw [execute_edit_of_ok hedit]
  exact ⟨applyEdit_eq_ok hedit, hrep⟩

/-- Changed workspaces keep their key and the keys of their tables, when the step keeps
    the key of its table. -/
theorem TablesChanged.keys {k : Key} {step : Table → Table → Prop}
    (hstep : ∀ t t', step t t' → t'.key = t.key) {w w' : Workspace}
    (h : TablesChanged k step w w') :
    w'.key = w.key ∧ w'.tables.map (·.key) = w.tables.map (·.key) := by
  refine ⟨h.1, map_eq_of_forall₂ (fun t t' htt => ?_) h.2.2⟩
  rcases htt with rfl | ⟨-, hs⟩
  · rfl
  · exact hstep t t' hs

end Document

/-! ## Table steps -/

namespace Table

variable {t t' : Table} {u : Unit}

theorem addRowStep_run_ok {r : Row} (h : (addRowStep r).run t = .ok u t') :
    t.hasRow r.key = false ∧ t' = { t with rows := t.rows ++ [r] } := by
  simp only [addRowStep, EStateM.run_bind, EStateM.run_get] at h
  split at h
  · cases h
  · rename_i hrow
    cases h
    exact ⟨by simpa using hrow, rfl⟩

theorem removeRowStep_run_ok {k : Key} (h : (removeRowStep k).run t = .ok u t') :
    t' = { t with rows := t.rows.filter (·.key != k) } := by
  simp only [removeRowStep, EStateM.run_bind, EStateM.run_get, EStateM.run_modify] at h
  split at h
  · cases h
  · cases h
    rfl

theorem addColumnStep_run_ok {k : Key} {name : String} {kind : ColumnKind}
    {options : List String} (h : (addColumnStep k name kind options).run t = .ok u t') :
    t.hasColumn k = false ∧
      t' = { t with columns := t.columns ++ [⟨k, name, kind, options, t.nextOrder⟩] } := by
  simp only [addColumnStep, EStateM.run_bind, EStateM.run_get] at h
  split at h
  · cases h
  · rename_i hcol
    cases h
    exact ⟨by simpa using hcol, rfl⟩

theorem renameColumnStep_run_ok {k : Key} {name : String}
    (h : (renameColumnStep k name).run t = .ok u t') :
    ∃ cs, borrowFirst (·.key == k) (fun c => ((), { c with name := name })) t.columns
      = some ((), cs) ∧ t' = { t with columns := cs } := by
  simp only [renameColumnStep, EStateM.run_bind, EStateM.run_get] at h
  split at h
  · cases h
  · rename_i cs hcs
    cases h
    exact ⟨cs, hcs, rfl⟩

theorem moveColumnStep_run_ok {k : Key} {position : Nat}
    (h : (moveColumnStep k position).run t = .ok u t') : t.moveColumn k position = .ok t' := by
  simp only [moveColumnStep, EStateM.run_bind, EStateM.run_get] at h
  split at h
  · cases h
  · rename_i t₁ ht
    cases h
    exact ht

theorem removeColumnStep_run_ok {k : Key} (h : (removeColumnStep k).run t = .ok u t') :
    t.hasColumn k = true ∧ t' = t.removeColumn k := by
  simp only [removeColumnStep, EStateM.run_bind, EStateM.run_get] at h
  split at h
  · cases h
  · rename_i hcol
    cases h
    exact ⟨by simpa using hcol, rfl⟩

theorem editCellStep_run_ok {rk ck : Key} {v : Json.Value}
    (h : (editCellStep rk ck v).run t = .ok u t') :
    t.hasColumn ck = true ∧ ∃ rows, borrowFirst (·.key == rk) (fun r => ((), r.set ck v))
      t.rows = some ((), rows) ∧ t' = { t with rows := rows } := by
  simp only [editCellStep, EStateM.run_bind, EStateM.run_get] at h
  split at h
  · cases h
  · rename_i hcol
    split at h
    · cases h
    · rename_i rows hrows
      cases h
      exact ⟨by simpa using hcol, rows, hrows, rfl⟩

theorem resizeColumnStep_run_ok {k : Key} {width : Nat}
    (h : (resizeColumnStep k width).run t = .ok u t') :
    t.hasColumn k = true ∧
      t' = { t with widths := t.widths.insert k (max width minColumnWidth) } := by
  simp only [resizeColumnStep, EStateM.run_bind, EStateM.run_get] at h
  split at h
  · cases h
  · rename_i hcol
    cases h
    exact ⟨by simpa using hcol, rfl⟩

/-- Moving a column renumbers display orders and changes nothing else. -/
theorem moveColumn_eq_ok {k : Key} {position : Nat} (h : t.moveColumn k position = .ok t') :
    t'.key = t.key ∧ t'.name = t.name ∧ t'.rows = t.rows ∧ t'.widths = t.widths ∧
      t'.columns.map (·.key) = t.columns.map (·.key) := by
  unfold moveColumn at h
  dsimp only at h
  split at h
  · cases h
  · cases h
    refine ⟨rfl, rfl, rfl, rfl, ?_⟩
    rw [List.map_map]
    congr 1
    funext c
    simp only [Function.comp]
    split <;> rfl

end Table

/-! ## Edits of the document -/

namespace Document

variable {d d' : Document} {u : Unit}

theorem tryEdit_addWorkspace_ok {w : Workspace} (h : (tryEdit (.addWorkspace w)).run d = .ok u d') :
    d.hasWorkspace w.key = false ∧ d' = { d with workspaces := d.workspaces ++ [w] } := by
  simp only [tryEdit, EStateM.run_bind, EStateM.run_get] at h
  split at h
  · cases h
  · rename_i hws
    cases h
    exact ⟨by simpa using hws, rfl⟩

theorem tryEdit_removeWorkspace_ok {k : Key}
    (h : (tryEdit (.removeWorkspace k)).run d = .ok u d') :
    ∃ i, d.workspaces.findIdx? (·.key == k) = some i ∧
      d' = (if d.nav.workspace = some k then
          ({ d with workspaces := d.workspaces.eraseIdx i } : Document).withNav
            (match (d.workspaces.eraseIdx i).head? with
              | some w => (d.nav.selectWorkspace (some w.key)).selectTable
                  (w.tables.head?.map (·.key))
              | none => d.nav.selectWorkspace none)
        else { d with workspaces := d.workspaces.eraseIdx i }).clearRemovedGroupBy := by
  simp only [tryEdit, EStateM.run_bind, EStateM.run_get] at h
  split at h
  · rename_i i hi
    simp only [EStateM.run_bind, EStateM.run_modify, EStateM.run_get] at h
    refine ⟨i, hi, ?_⟩
    split at h
    · rename_i hnav
      simp only [EStateM.run_bind, EStateM.run_modify] at h
      cases h
      exact congrArg clearRemovedGroupBy (if_pos (by simpa using hnav)).symm
    · rename_i hnav
      simp only [EStateM.run_modify] at h
      cases h
      exact congrArg clearRemovedGroupBy (if_neg (by simpa using hnav)).symm
  · cases h

theorem tryEdit_addTable_ok {wk : Key} {t : Table}
    (h : (tryEdit (.addTable wk t)).run d = .ok u d') :
    d.findTable t.key = none ∧ ∃ ws,
      borrowFirst (·.key == wk) (fun w => ((), { w with tables := w.tables ++ [t] }))
        d.workspaces = some ((), ws) ∧
      d' = if d.nav.workspace = some wk then
          ({ d with workspaces := ws } : Document).withNav (d.nav.selectTable (some t.key))
        else { d with workspaces := ws } := by
  simp only [tryEdit, EStateM.run_bind, EStateM.run_get] at h
  split at h
  · cases h
  · rename_i hfree
    simp only [EStateM.run_bind] at h
    split at h
    · rename_i u' d₁ hw
      obtain ⟨ws, hws, rfl⟩ := withWorkspace_run_ok hw
      refine ⟨by simpa using hfree, ws, hws, ?_⟩
      simp only [EStateM.run_get] at h
      split at h
      · rename_i hnav
        cases h
        rw [if_pos (by simpa using hnav)]
      · rename_i hnav
        cases h
        rw [if_neg (by simpa using hnav)]
    · cases h

theorem tryEdit_removeTable_ok {k : Key}
    (h : (tryEdit (.removeTable k)).run d = .ok u d') :
    ∃ owner t, d.findTable k = some (owner, t) ∧ ∃ fallback ws,
      borrowFirst (·.key == owner) (fun w =>
          ((w.tables.filter (·.key != k)).head?.map (·.key),
            { w with tables := w.tables.filter (·.key != k) }))
        d.workspaces = some (fallback, ws) ∧
      d' = (if d.nav.table = some k then
          ({ d with workspaces := ws } : Document).withNav (d.nav.selectTable fallback)
        else { d with workspaces := ws }).clearRemovedGroupBy := by
  simp only [tryEdit, EStateM.run_bind, EStateM.run_get] at h
  split at h
  · rename_i owner t hfind
    simp only [EStateM.run_bind] at h
    split at h
    · rename_i fallback d₁ hw
      obtain ⟨ws, hws, rfl⟩ := withWorkspace_run_ok hw
      refine ⟨owner, t, hfind, fallback, ws, hws, ?_⟩
      simp only [EStateM.run_get] at h
      split at h
      · rename_i hnav
        simp only [EStateM.run_bind, EStateM.run_modify] at h
        cases h
        rw [if_pos (by simpa using hnav)]
      · rename_i hnav
        simp only [EStateM.run_modify] at h
        cases h
        rw [if_neg (by simpa using hnav)]
    · cases h
  · cases h

theorem tryEdit_removeColumn_ok {tk ck : Key}
    (h : (tryEdit (.removeColumn tk ck)).run d = .ok u d') :
    ∃ d₁, (withTable tk (Table.removeColumnStep ck)).run d = .ok () d₁ ∧
      d' = if d₁.nav.groupBy = some ck then d₁.withNav { d₁.nav with groupBy := none }
        else d₁ := by
  simp only [tryEdit, EStateM.run_bind] at h
  split at h
  · rename_i u' d₁ hw
    refine ⟨d₁, hw, ?_⟩
    simp only [EStateM.run_get] at h
    split at h
    · rename_i hg
      cases h
      rw [if_pos (by simpa using hg)]
    · rename_i hg
      cases h
      rw [if_neg (by simpa using hg)]
  · cases h

theorem tryEdit_selectWorkspace_ok {k : Key}
    (h : (tryEdit (.selectWorkspace k)).run d = .ok u d') :
    ∃ w, d.workspace? k = some w ∧
      d' = d.withNav ((d.nav.selectWorkspace (some k)).selectTable (w.tables.head?.map (·.key))) := by
  simp only [tryEdit, EStateM.run_bind, EStateM.run_get] at h
  split at h
  · rename_i w hw
    cases h
    exact ⟨w, hw, rfl⟩
  · cases h

theorem tryEdit_selectTable_ok {wk tk : Key}
    (h : (tryEdit (.selectTable wk tk)).run d = .ok u d') :
    ∃ w, d.workspace? wk = some w ∧ w.hasTable tk = true ∧
      d' = d.withNav ((d.nav.selectWorkspace (some wk)).selectTable (some tk)) := by
  simp only [tryEdit, EStateM.run_bind, EStateM.run_get] at h
  split at h
  · rename_i w hw
    split at h
    · cases h
    · rename_i ht
      cases h
      exact ⟨w, hw, by simpa using ht, rfl⟩
  · cases h

theorem tryEdit_setGroupBy_ok {c : Option Key}
    (h : (tryEdit (.setGroupBy c)).run d = .ok u d') :
    d' = d.withNav { d.nav with groupBy := c } := by
  cases c with
  | none =>
      cases h
      rfl
  | some c =>
      simp only [tryEdit, EStateM.run_bind, EStateM.run_get] at h
      split at h
      · split at h
        · cases h
        · cases h
          rfl
      · cases h

end Document

end Tabula
