import Tabula.Proofs.Steps
/-! # Refused edits change nothing

    An edit is a step that changes the document in place, and a step that fails still
    hands back the document as it left it.  This file shows that every edit that fails
    hands back the document it was given: no pointer, list, map or setting is left half
    changed.

    The argument is the shape of the edits.  Each looks up and checks what it names
    before its first change, and what comes after the first change cannot fail; a step
    built so `FailsCleanly`.  Two steps need more:

    * a table is changed through a borrow that writes back whatever the change left,
      also on failure (`failsCleanly_withTable`);
    * removing a row drops the rows first and notices an unknown row afterwards, by the
      count; when nothing was dropped, dropping changed nothing (`failsCleanly_removeRowStep`).

    The main result is `Document.tryEdit_error_leaves_document`. -/

namespace Tabula

section Steps

variable {ε σ α β : Type}

/-- A step that hands back the state it was given whenever it fails. -/
def FailsCleanly (x : EStateM ε σ α) : Prop :=
  ∀ s e s', x.run s = .error e s' → s' = s

/-- A step that never fails. -/
def NeverFails (x : EStateM ε σ α) : Prop :=
  ∀ s e s', x.run s ≠ .error e s'

theorem NeverFails.failsCleanly {x : EStateM ε σ α} (h : NeverFails x) : FailsCleanly x :=
  fun s e s' hx => absurd hx (h s e s')

theorem neverFails_pure {a : α} : NeverFails (pure a : EStateM ε σ α) := by
  intro s e s' h
  cases h

theorem neverFails_modify {f : σ → σ} : NeverFails (modify f : EStateM ε σ PUnit) := by
  intro s e s' h
  cases h

theorem neverFails_set {s₀ : σ} : NeverFails (set s₀ : EStateM ε σ PUnit) := by
  intro s e s' h
  cases h

/-- Steps that cannot fail, one after the other, cannot fail. -/
theorem NeverFails.bind {x : EStateM ε σ α} {f : α → EStateM ε σ β} (hx : NeverFails x)
    (hf : ∀ a, NeverFails (f a)) : NeverFails (x >>= f) := by
  intro s e s' h
  rw [EStateM.run_bind] at h
  split at h
  · exact hf _ _ _ _ h
  · rename_i e' s₁ hs
    exact hx _ _ _ hs

theorem neverFails_get_bind {f : σ → EStateM ε σ β} (hf : ∀ s, NeverFails (f s)) :
    NeverFails (get >>= f) :=
  NeverFails.bind (fun _ _ _ h => nomatch h) hf

theorem failsCleanly_throw {e : ε} : FailsCleanly (throw e : EStateM ε σ α) := by
  intro s e' s' h
  cases h
  rfl

/-- A step that throws at once hands back its state, whatever was to follow. -/
theorem failsCleanly_throw_bind {e : ε} {f : α → EStateM ε σ β} :
    FailsCleanly (throw e >>= f) := by
  intro s e' s' h
  cases h
  rfl

/-- Reading the state changes nothing, so what follows decides. -/
theorem failsCleanly_get_bind {f : σ → EStateM ε σ β} (hf : ∀ s, FailsCleanly (f s)) :
    FailsCleanly (get >>= f) := by
  intro s e s' h
  rw [EStateM.run_bind, EStateM.run_get] at h
  exact hf s _ _ _ h

/-- **Check, then change**: a step that fails cleanly, followed by changes that cannot
    fail, fails cleanly. -/
theorem FailsCleanly.bind_neverFails {x : EStateM ε σ α} {f : α → EStateM ε σ β}
    (hx : FailsCleanly x) (hf : ∀ a, NeverFails (f a)) : FailsCleanly (x >>= f) := by
  intro s e s' h
  rw [EStateM.run_bind] at h
  split at h
  · exact absurd h (hf _ _ _ _)
  · rename_i e' s₁ hs
    cases h
    exact hx _ _ _ hs

end Steps

namespace Document

/-- The borrow of a workspace fails only when there is none of the key, and then hands
    the document back. -/
theorem failsCleanly_withWorkspace {β : Type} (k : Key) (act : Workspace → β × Workspace) :
    FailsCleanly (withWorkspace k act) := by
  intro d e d' h
  simp only [EStateM.run, withWorkspace] at h
  split at h
  · cases h
    rfl
  · cases h

end Document

/-- **The borrow of a table writes back what the change left**: when the change of the
    table fails cleanly, so does the change of the document. -/
theorem failsCleanly_withTable {α : Type} {k : Key} {act : EStateM EditError Table α}
    (hact : FailsCleanly act) : FailsCleanly (Document.withTable k act) := by
  intro d e d' h
  simp only [EStateM.run] at h
  unfold Document.withTable at h
  dsimp only at h
  split at h
  · cases h
    rfl
  · cases h
  · rename_i e' s ws hb
    -- the failed change handed its table back, so each workspace is lent back as it was
    have hkeep : ∀ w w' : Workspace, (borrowFirst (·.key == k)
        (fun t => (act.run t, stateLeft (act.run t))) w.tables).map
          (fun x => (x.1, { w with tables := x.2 })) = some (.error e' s, w') → w' = w := by
      intro w w' hw
      obtain ⟨⟨r, ts⟩, hts, heq⟩ := Option.map_eq_some_iff.1 hw
      obtain ⟨rfl, rfl⟩ := Prod.mk.inj heq
      have hsame : ts = w.tables := by
        refine borrowSome_eq_self hts fun t t' ht => ?_
        split at ht
        · obtain ⟨hr, rfl⟩ := Prod.mk.inj (Option.some.inj ht)
          rw [hr]
          exact hact t _ _ hr
        · cases ht
      rw [hsame]
    cases h
    rw [borrowSome_eq_self hb hkeep]

/-- **Removing rows fails cleanly**: the rows are dropped before the count is compared, but
    when the count is the same no row was dropped. -/
theorem failsCleanly_removeRowStep (rk : Key) : FailsCleanly (Table.removeRowStep rk) := by
  intro t e t' h
  simp only [Table.removeRowStep, EStateM.run_bind, EStateM.run_get, EStateM.run_modify] at h
  split at h
  · rename_i hlen
    cases h
    have hsame : t.rows.filter (·.key != rk) = t.rows :=
      List.filter_eq_self.2 (List.length_filter_eq_length_iff.1 (by simpa using hlen))
    rw [hsame]
  · cases h

/-- A check of the table, then a change that cannot fail. -/
theorem failsCleanly_check_modify {c : Table → Bool} {err : EditError} {f : Table → Table} :
    FailsCleanly (do
      if c (← get) then throw err
      modify f : EStateM EditError Table Unit) := by
  refine failsCleanly_get_bind fun t => ?_
  dsimp only
  split
  · exact failsCleanly_throw_bind
  · exact neverFails_modify.failsCleanly

namespace Table

theorem failsCleanly_addRowStep (r : Row) : FailsCleanly (addRowStep r) :=
  failsCleanly_check_modify

theorem failsCleanly_addColumnStep (k : Key) (name : String) (kind : ColumnKind)
    (options : List String) : FailsCleanly (addColumnStep k name kind options) :=
  failsCleanly_check_modify

theorem failsCleanly_removeColumnStep (k : Key) : FailsCleanly (removeColumnStep k) :=
  failsCleanly_check_modify

theorem failsCleanly_resizeColumnStep (k : Key) (width : Nat) :
    FailsCleanly (resizeColumnStep k width) :=
  failsCleanly_check_modify

theorem failsCleanly_renameColumnStep (k : Key) (name : String) :
    FailsCleanly (renameColumnStep k name) := by
  refine failsCleanly_get_bind fun t => ?_
  split
  · exact failsCleanly_throw
  · exact neverFails_set.failsCleanly

theorem failsCleanly_moveColumnStep (k : Key) (position : Nat) :
    FailsCleanly (moveColumnStep k position) := by
  refine failsCleanly_get_bind fun t => ?_
  split
  · exact failsCleanly_throw
  · exact neverFails_set.failsCleanly

theorem failsCleanly_editCellStep (rk ck : Key) (v : Json.Value) :
    FailsCleanly (editCellStep rk ck v) := by
  refine failsCleanly_get_bind fun t => ?_
  dsimp only
  split
  · exact failsCleanly_throw_bind
  · split
    · exact failsCleanly_throw
    · exact neverFails_set.failsCleanly

end Table

namespace Document

open Table in
/-- Every edit fails cleanly. -/
theorem failsCleanly_tryEdit : ∀ e : Edit, FailsCleanly (tryEdit e)
  | .addWorkspace w => by
      refine failsCleanly_get_bind fun d => ?_
      dsimp only
      split
      · exact failsCleanly_throw_bind
      · exact neverFails_modify.failsCleanly
  | .renameWorkspace k name => failsCleanly_withWorkspace _ _
  | .removeWorkspace k => by
      refine failsCleanly_get_bind fun d => ?_
      split
      · refine NeverFails.failsCleanly (neverFails_modify.bind fun _ => ?_)
        refine neverFails_get_bind fun d => ?_
        dsimp only
        split
        · exact neverFails_modify.bind fun _ => neverFails_modify
        · exact neverFails_modify
      · exact failsCleanly_throw
  | .addTable wk t => by
      refine failsCleanly_get_bind fun d => ?_
      dsimp only
      split
      · exact failsCleanly_throw_bind
      · refine (failsCleanly_withWorkspace _ _).bind_neverFails fun _ => ?_
        refine neverFails_get_bind fun d => ?_
        split
        · exact neverFails_modify
        · exact neverFails_pure
  | .renameTable k name => failsCleanly_withTable neverFails_modify.failsCleanly
  | .removeTable k => by
      refine failsCleanly_get_bind fun d => ?_
      split
      · refine (failsCleanly_withWorkspace _ _).bind_neverFails fun _ => ?_
        refine neverFails_get_bind fun d => ?_
        dsimp only
        split
        · exact neverFails_modify.bind fun _ => neverFails_modify
        · exact neverFails_modify
      · exact failsCleanly_throw
  | .addRow tk r => failsCleanly_withTable (failsCleanly_addRowStep r)
  | .removeRow tk rk => failsCleanly_withTable (failsCleanly_removeRowStep rk)
  | .addColumn tk ck name kind options =>
      failsCleanly_withTable (failsCleanly_addColumnStep ck name kind options)
  | .renameColumn tk ck name => failsCleanly_withTable (failsCleanly_renameColumnStep ck name)
  | .moveColumn tk ck position =>
      failsCleanly_withTable (failsCleanly_moveColumnStep ck position)
  | .removeColumn tk ck => by
      refine (failsCleanly_withTable (failsCleanly_removeColumnStep ck)).bind_neverFails
        fun _ => ?_
      refine neverFails_get_bind fun d => ?_
      split
      · exact neverFails_modify
      · exact neverFails_pure
  | .editCell tk rk ck v => failsCleanly_withTable (failsCleanly_editCellStep rk ck v)
  | .resizeColumn tk ck width => failsCleanly_withTable (failsCleanly_resizeColumnStep ck width)
  | .selectWorkspace k => by
      refine failsCleanly_get_bind fun d => ?_
      split
      · exact neverFails_modify.failsCleanly
      · exact failsCleanly_throw
  | .selectTable wk tk => by
      refine failsCleanly_get_bind fun d => ?_
      split
      · dsimp only
        split
        · exact failsCleanly_throw_bind
        · exact neverFails_modify.failsCleanly
      · exact failsCleanly_throw
  | .setGroupBy none => neverFails_modify.failsCleanly
  | .setGroupBy (some c) => by
      refine failsCleanly_get_bind fun d => ?_
      split
      · dsimp only
        split
        · exact failsCleanly_throw_bind
        · exact neverFails_modify.failsCleanly
      · exact failsCleanly_throw_bind
  | .goToLevel l => neverFails_modify.failsCleanly
  | .toggleSidebar => neverFails_modify.failsCleanly
  | .setSeparator s => neverFails_modify.failsCleanly

/-- **A refused edit changes nothing**: an edit that fails hands back the document it was
    given, and executing it leaves the document as it was. -/
theorem tryEdit_error_leaves_document (d d' : Document) (e : Edit) (err : EditError)
    (h : (tryEdit e).run d = .error err d') : d' = d ∧ d.execute (.edit e) = d :=
  ⟨failsCleanly_tryEdit e d err d' h, execute_edit_of_error h⟩

/-- A document of one workspace holding one table with one row. -/
def oneRowSample : Document :=
  { workspaces := [⟨⟨"w"⟩, "Work", [⟨⟨"t"⟩, "Tasks", [], [Row.empty ⟨"r"⟩], []⟩]⟩] }

/-- Removing a row the table does not hold drops nothing and is refused; the document is
    handed back as it was. -/
theorem tryEdit_removeRow_absent_leaves_document :
    (tryEdit (.removeRow ⟨"t"⟩ ⟨"x"⟩)).run oneRowSample
        = .error (.notFound .row ⟨"x"⟩) oneRowSample ∧
      oneRowSample = oneRowSample ∧ oneRowSample.execute (.edit (.removeRow ⟨"t"⟩ ⟨"x"⟩))
        = oneRowSample :=
  ⟨rfl, tryEdit_error_leaves_document _ _ _ _ rfl⟩

end Document

end Tabula
