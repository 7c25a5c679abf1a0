import Tabula.Proofs.Steps
import Tabula.Proofs.GroupBy
/-! # Going up

    A path of colons alone goes up one level for each colon.  One level up forgets the
    deepest field that is set, taking the column, the row, the table and the workspace in
    that order.  Any of the sixteen combinations of set fields can occur: a column may be
    set without a row, and a cursor without a table.  So the levels that are set need not
    hang together from the top.

    `Navigation.setLevels` lists the levels that are set, deepest first, and
    `Navigation.forget` forgets the fields of a list of levels and keeps the view and the
    grouping column.  Then:

    * one level up forgets the level `depth` names (`up_eq_forget_depth`), and what is
      left set is the rest of the list (`setLevels_up`);
    * `k` levels up forget the first `k` set levels (`upBy_eq_forget`);
    * two climbs are one climb of the summed height (`upBy_add`), and a climb of at least
      as many levels as are set goes home (`upBy_of_length_le`);
    * `ascend_forgets_deepest_levels` says the same of resolving and executing paths. -/

namespace Tabula

namespace Navigation

/-- Whether the field of a level is set. -/
def isSet (n : Navigation) : Level → Bool
  | .workspace => n.workspace.isSome
  | .table => n.table.isSome
  | .row => n.cursor.row.isSome
  | .column => n.cursor.col.isSome

/-- The levels whose field is set, deepest first. -/
def setLevels (n : Navigation) : List Level :=
  [.column, .row, .table, .workspace].filter n.isSet

/-- Forgets the field of one level. -/
def clear (n : Navigation) : Level → Navigation
  | .workspace => { n with workspace := none }
  | .table => { n with table := none }
  | .row => { n with cursor := { n.cursor with row := none } }
  | .column => { n with cursor := { n.cursor with col := none } }

/-- Forgets the fields of some levels, one after the other. -/
def forget (n : Navigation) (ls : List Level) : Navigation := ls.foldl clear n

@[simp] theorem forget_nil (n : Navigation) : n.forget [] = n := rfl

/-- Forgetting twice forgets the levels of both lists. -/
theorem forget_forget (n : Navigation) (ls ms : List Level) :
    (n.forget ls).forget ms = n.forget (ls ++ ms) := by
  simp [forget, List.foldl_append]

/-- Forgetting keeps the view and the grouping column. -/
@[simp] theorem forget_view (n : Navigation) (ls : List Level) :
    (n.forget ls).view = n.view ∧ (n.forget ls).groupBy = n.groupBy := by
  induction ls generalizing n with
  | nil => exact ⟨rfl, rfl⟩
  | cons l ls ih =>
    have hclear : (n.clear l).view = n.view ∧ (n.clear l).groupBy = n.groupBy := by
      cases l <;> exact ⟨rfl, rfl⟩
    obtain ⟨hv, hg⟩ := ih (n.clear l)
    exact ⟨hv.trans hclear.1, hg.trans hclear.2⟩

/-- The deepest level that is set is the head of the set levels. -/
theorem depth_eq_head?_setLevels (n : Navigation) : n.depth = n.setLevels.head? := by
  unfold depth
  split_ifs <;> simp_all [setLevels, isSet, List.filter]

/-- **One level up** forgets exactly the level `depth` names. -/
theorem up_eq_forget_depth (n : Navigation) : n.up = n.forget n.depth.toList := by
  unfold up depth
  split_ifs <;> rfl

/-- One level up leaves set what was set below the deepest set level. -/
theorem setLevels_up (n : Navigation) : n.up.setLevels = n.setLevels.tail := by
  -- each of the sixteen combinations of set fields, computed
  obtain ⟨w, t, ⟨r, c⟩, v, g⟩ := n
  cases w <;> cases t <;> cases r <;> cases c <;> rfl

/-- **`k` levels up** forget the first `k` set levels, deepest first. -/
theorem upBy_eq_forget (n : Navigation) (k : Nat) :
    n.upBy k = n.forget (n.setLevels.take k) := by
  induction k generalizing n with
  | zero => simp [upBy]
  | succ k ih =>
    -- the first step forgets the head of the set levels, the other `k` the next ones
    have hsplit : n.depth.toList ++ n.setLevels.tail.take k = n.setLevels.take (k + 1) := by
      rw [depth_eq_head?_setLevels]
      cases n.setLevels <;> simp
    calc n.upBy (k + 1) = n.up.upBy k := rfl
      _ = (n.forget n.depth.toList).forget (n.setLevels.tail.take k) := by
        rw [ih, setLevels_up, ← up_eq_forget_depth]
      _ = n.forget (n.setLevels.take (k + 1)) := by rw [forget_forget, hsplit]

/-- Forgetting every set level goes home. -/
theorem forget_setLevels (n : Navigation) : n.forget n.setLevels = n.home := by
  obtain ⟨w, t, ⟨r, c⟩, v, g⟩ := n
  cases w <;> cases t <;> cases r <;> cases c <;> rfl

/-- Two climbs are one climb of the summed height. -/
theorem upBy_add (n : Navigation) (a b : Nat) : n.upBy (a + b) = (n.upBy a).upBy b := by
  induction a generalizing n with
  | zero => simp [upBy]
  | succ a ih =>
    rw [Nat.add_right_comm]
    exact ih n.up

/-- A climb of at least as many levels as are set goes home. -/
theorem upBy_of_length_le {n : Navigation} {k : Nat} (hk : n.setLevels.length ≤ k) :
    n.upBy k = n.home := by
  rw [upBy_eq_forget, List.take_of_length_le hk, forget_setLevels]

end Navigation

namespace Document

/-- Executing a climb goes up from the current navigation; a climb always resolves. -/
theorem execute_ascend (d : Document) (k : Nat) :
    d.execute (.select (some (.ascend k))) = d.withNav (d.nav.upBy k) := rfl

end Document

/-- **Going up.**  A climb of `k` levels resolves in every document, and forgets the
    `k` deepest set fields, taken in the order column, row, table, workspace; each level
    up forgets the field `depth` names and keeps the view and the grouping column.  So two
    climbs executed one after the other are one climb of the summed height, and a climb of
    at least as many levels as are set is going home. -/
theorem ascend_forgets_deepest_levels :
    (∀ (ws : List Workspace) (n : Navigation) (k : Nat),
      resolvePath ws n (.ascend k) = some (n.forget (n.setLevels.take k))) ∧
    (∀ n : Navigation, n.depth = n.setLevels.head? ∧ n.up = n.forget n.depth.toList ∧
      (n.up.view = n.view ∧ n.up.groupBy = n.groupBy)) ∧
    (∀ (d : Document) (a b : Nat),
      (d.execute (.select (some (.ascend a)))).execute (.select (some (.ascend b))) =
        d.execute (.select (some (.ascend (a + b))))) ∧
    (∀ (d : Document) (k : Nat), d.nav.setLevels.length ≤ k →
      d.execute (.select (some (.ascend k))) = d.execute (.select none)) := by
  refine ⟨fun ws n k => ?_, fun n => ?_, fun d a b => ?_, fun d k hk => ?_⟩
  · rw [← Navigation.upBy_eq_forget]
    rfl
  · rw [n.up_eq_forget_depth]
    exact ⟨n.depth_eq_head?_setLevels, rfl, Navigation.forget_view _ _⟩
  · rw [Document.execute_ascend, Document.execute_ascend, Document.execute_ascend,
      Document.withNav_withNav, Document.withNav_nav, Navigation.upBy_add]
  · rw [Document.execute_ascend, Navigation.upBy_of_length_le hk]
    rfl

/-- A table and a column are set, but no workspace and no row. -/
def columnWithoutRow : Document :=
  { workspaces := [], nav := { table := some ⟨"t"⟩, cursor := { col := some 2 } } }

/-- Three levels up from a column set without a row goes home: two fields are set. -/
theorem ascend_forgets_deepest_levels_columnWithoutRow :
    columnWithoutRow.nav.setLevels.length ≤ 3 ∧
      columnWithoutRow.execute (.select (some (.ascend 3))) =
        columnWithoutRow.execute (.select none) :=
  ⟨by decide, ascend_forgets_deepest_levels.2.2.2 columnWithoutRow 3 (by decide)⟩

end Tabula
