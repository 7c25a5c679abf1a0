import Tabula.Proofs.DisplayOrder
import Tabula.Proofs.AbsolutePaths
import Tabula.Proofs.Ascend
import Tabula.App.Keys
import Tabula.Store.FileTree
/-! # Keys that move the cursor column and remove the cursor row

    In the application a key changes the document through an action or an edit, and keeps
    the new document only when it differs from the old one, as the documents compare.
    The keys `>` and `<` move the column under the cursor one place right or left and then
    the cursor after it; the key `x` removes the row under the cursor and then puts the
    cursor back into the table, or goes up two levels when no row is left.

    The comparison of documents decides which of these steps happen, so this module first
    shows what two documents that compare equal share: the navigation
    (`Document.nav_eq_of_beq`) and, of two documents one edit apart, the edited table
    (`Document.ReplacesFirstTable.beq`).  A change of the navigation alone is then kept
    exactly as made (`Document.ite_withNav_beq`).

    The application runs in any monad with a file system; here the file system is any
    state (`StateM σ`), so the results hold whatever the folder holds and whatever saving
    does.  Only the document of the result matters below (`App.commit_doc`,
    `App.runAction_doc`, `App.applyEdit_doc`).

    * `moveCursorColumn_follows_column`: with distinct keys and a current table that has
      rows, `>` and `<` move the column to `min (c + 1) n` and `max (c - 1) 1` and the
      cursor with it;
    * `removeCursorRow_keeps_table`: with distinct keys, `x` removes the rows of the
      cursor row's key and keeps the place; with rows left and columns, the cursor is back
      in the table, and with no row left and a cursor column, the cursor is empty.

    Outside these conditions the keys do otherwise: in a table without rows the cursor
    does not follow a moved column (`moveCursorColumn_leaves_cursor_without_rows`), and
    removing the last row under a cursor without a column leaves the table, while
    removing a row of a table without columns can leave the cursor past the last row
    (`removeCursorRow_leaves_table_or_range`). -/

namespace Tabula

/-! ## Comparing documents -/

theorem View.beq_iff_eq {a b : View} : (a == b) = true ↔ a = b := by
  cases a <;> cases b <;> decide

instance : LawfulBEq View where
  eq_of_beq h := View.beq_iff_eq.1 h
  rfl := View.beq_iff_eq.2 rfl

theorem Cursor.beq_iff_eq {a b : Cursor} : (a == b) = true ↔ a = b := by
  obtain ⟨r, c⟩ := a
  obtain ⟨r', c'⟩ := b
  change (r == r' && c == c') = true ↔ _
  simp

instance : LawfulBEq Cursor where
  eq_of_beq h := Cursor.beq_iff_eq.1 h
  rfl := Cursor.beq_iff_eq.2 rfl

theorem Navigation.beq_iff_eq {a b : Navigation} : (a == b) = true ↔ a = b := by
  obtain ⟨w, t, c, v, g⟩ := a
  obtain ⟨w', t', c', v', g'⟩ := b
  change (w == w' && (t == t' && (c == c' && (v == v' && g == g')))) = true ↔ _
  simp

instance : LawfulBEq Navigation where
  eq_of_beq h := Navigation.beq_iff_eq.1 h
  rfl := Navigation.beq_iff_eq.2 rfl

namespace Document

/-- Documents compare by their workspaces, navigation and settings. -/
theorem beq_eq (d d' : Document) :
    (d == d') = (d.workspaces == d'.workspaces && (d.nav == d'.nav && d.settings == d'.settings)) := by
  obtain ⟨ws, n, s⟩ := d
  obtain ⟨ws', n', s'⟩ := d'
  rfl

theorem nav_eq_of_beq {d d' : Document} (h : (d == d') = true) : d.nav = d'.nav := by
  rw [beq_eq] at h
  simp only [Bool.and_eq_true] at h
  exact eq_of_beq h.2.1

/-- A change of the navigation alone is kept as made: when the new document compares equal
    to the old one, the navigation was already the new one. -/
theorem ite_withNav_beq (d : Document) (n : Navigation) :
    (if (d.withNav n == d) = true then d else d.withNav n) = d.withNav n := by
  split
  · rename_i h
    have hn : n = d.nav := nav_eq_of_beq h
    rw [hn]
    rfl
  · rfl

end Document

section Lists

variable {α : Type} [BEq α]

/-- Lists that compare equal compare equal item by item. -/
theorem forall₂_of_beq : ∀ {xs ys : List α}, (xs == ys) = true →
    List.Forall₂ (fun x y => (x == y) = true) xs ys
  | [], [], _ => .nil
  | [], _ :: _, h => by simp at h
  | _ :: _, [], h => by simp at h
  | x :: xs, y :: ys, h => by
    rw [List.cons_beq_cons, Bool.and_eq_true] at h
    exact .cons h.1 (forall₂_of_beq h.2)

/-- Two lists alike but for one item that compare equal have those items compare equal. -/
theorem beq_of_beq_middle {x y : α} {post : List α} :
    ∀ {pre : List α}, (pre ++ x :: post == pre ++ y :: post) = true → (x == y) = true
  | [], h => by
    rw [List.nil_append, List.nil_append, List.cons_beq_cons, Bool.and_eq_true] at h
    exact h.1
  | p :: pre, h => by
    rw [List.cons_append, List.cons_append, List.cons_beq_cons, Bool.and_eq_true] at h
    exact beq_of_beq_middle h.2

end Lists

theorem Workspace.tables_beq_of_beq {w w' : Workspace} (h : (w == w') = true) :
    (w.tables == w'.tables) = true := by
  obtain ⟨k, n, ts⟩ := w
  obtain ⟨k', n', ts'⟩ := w'
  change (k == k' && (n == n' && ts == ts')) = true at h
  simp only [Bool.and_eq_true] at h
  exact h.2.2

theorem Table.beq_parts {t t' : Table} (h : (t == t') = true) :
    (t.columns == t'.columns) = true ∧ (t.rows == t'.rows) = true := by
  obtain ⟨k, n, cs, rs, ws⟩ := t
  obtain ⟨k', n', cs', rs', ws'⟩ := t'
  change (k == k' && (n == n' && (cs == cs' && (rs == rs' && ws == ws')))) = true at h
  simp only [Bool.and_eq_true] at h
  exact ⟨h.2.2.1, h.2.2.2.1⟩

theorem Column.order_eq_of_beq {c c' : Column} (h : (c == c') = true) : c.order = c'.order := by
  obtain ⟨k, n, kind, os, o⟩ := c
  obtain ⟨k', n', kind', os', o'⟩ := c'
  change (k == k' && (n == n' && (kind == kind' && (os == os' && o == o')))) = true at h
  simp only [Bool.and_eq_true] at h
  exact eq_of_beq h.2.2.2.2

/-- Of two documents one edit apart, the edited table compares equal to the old one when
    the documents do. -/
theorem Document.ReplacesFirstTable.beq {k : Key} {t t' : Table} {d d' : Document}
    (hrep : ReplacesFirstTable k t t' d d') (h : (d' == d) = true) : (t' == t) = true := by
  obtain ⟨-, -, pre, w, post, front, back, -, -, -, hws, hts, hws'⟩ := hrep
  rw [beq_eq, Bool.and_eq_true, hws, hws'] at h
  have hw := Workspace.tables_beq_of_beq (beq_of_beq_middle h.1)
  rw [hts] at hw
  exact beq_of_beq_middle hw

/-! ## Going to a cell -/

namespace Document

/-- A document with a current table has a current workspace that exists. -/
theorem exists_workspace_of_currentTable {d : Document} {t : Table}
    (ht : d.currentTable = some t) :
    ∃ wk w, d.nav.workspace = some wk ∧ d.workspaces.find? (·.key == wk) = some w ∧
      ∃ tk, d.nav.table = some tk ∧ w.table? tk = some t := by
  simp only [currentTable, currentWorkspace, Option.bind_eq_bind, Option.bind_eq_some_iff] at ht
  obtain ⟨w, ⟨wk, hwk, hw⟩, tk, htk, ht⟩ := ht
  exact ⟨wk, w, hwk, hw, tk, htk, ht⟩

/-- Going to a cell of the current table by its row and column positions sets the cursor
    there, for positions that fit in a machine word. -/
theorem execute_goToCell {d : Document} {t : Table} (ht : d.currentTable = some t) {r c : Nat}
    (hr1 : 1 ≤ r) (hr : r ≤ maxPosition) (hc1 : 1 ≤ c) (hc : c ≤ maxPosition) :
    d.execute (.select (some (.descend (.two (toString r) (toString c))))) =
      d.withNav { d.nav with cursor := ⟨some r, some c⟩ } := by
  obtain ⟨wk, w, hwk, hw, -⟩ := exists_workspace_of_currentTable ht
  -- the numerals the key writes are the decimal numerals without leading zeros
  have hpos (n : Nat) (h1 : 1 ≤ n) (h : n ≤ maxPosition) : positionOf? (toString n) = some n :=
    positionOf?_decimal (z := 0) h1 h
  have hres : resolveRelative d.workspaces d.nav (.two (toString r) (toString c)) =
      some { d.nav with cursor := ⟨some r, some c⟩ } := by
    simp only [resolveRelative, hwk, Option.bind_eq_bind, Option.bind_some, hw,
      hpos r hr1 hr, hpos c hc1 hc]
  have hpath : resolvePath d.workspaces d.nav (.descend (.two (toString r) (toString c))) =
      some { d.nav with cursor := ⟨some r, some c⟩ } := hres
  dsimp only [execute, navigate]
  rw [hpath]

/-- Moving the cursor keeps the current table. -/
theorem currentTable_withCursor (d : Document) (x : Cursor) :
    (d.withNav { d.nav with cursor := x }).currentTable = d.currentTable :=
  rfl

/-! ## The current table under distinct keys -/

variable {d d' : Document} {t : Table}

/-- The current table lies in the current workspace, found under its own key. -/
theorem mem_of_currentTable (ht : d.currentTable = some t) :
    ∃ w ∈ d.workspaces, d.nav.workspace = some w.key ∧ d.workspace? w.key = some w ∧
      d.nav.table = some t.key ∧ w.table? t.key = some t := by
  obtain ⟨wk, w, hwk, hw, tk, htk, hwt⟩ := exists_workspace_of_currentTable ht
  have hwkey : w.key = wk := by simpa using List.find?_some hw
  have htkey : t.key = tk := by simpa using List.find?_some hwt
  subst hwkey htkey
  exact ⟨w, List.mem_of_find?_eq_some hw, hwk, hw, htk, hwt⟩

/-- With distinct table keys the current table is the first table of its key. -/
theorem findTable_of_currentTable (hu : d.tableKeys.Nodup) (ht : d.currentTable = some t) :
    ∃ wk, d.findTable t.key = some (wk, t) := by
  obtain ⟨w, hw, -, -, -, hwt⟩ := mem_of_currentTable ht
  have hin : t.key ∈ w.tableKeys := List.mem_map_of_mem (List.mem_of_find?_eq_some hwt)
  cases hfind : d.findTable t.key with
  | none =>
    exact absurd (List.mem_flatMap.2 ⟨w, hw, hin⟩) ((findTable_eq_none_iff d t.key).1 hfind)
  | some p =>
    obtain ⟨wk, t'⟩ := p
    obtain ⟨pre, w', post, front, back, -, hfront, hkey, -, hws, hts⟩ :=
      findTable_eq_some_split hfind
    -- the table found lies in the current workspace, where it comes first of its key
    have hw' : w' ∈ d.workspaces := by simp [hws]
    have hin' : t.key ∈ w'.tableKeys := by simp [Workspace.tableKeys, hts, hkey]
    have hsame : w' = w := eq_of_mem_tableKeys hu hw' hw hin' hin
    have hfirst : w'.table? t.key = some t' := by
      have hnone : front.find? (·.key == t.key) = none :=
        List.find?_eq_none.2 fun s hs => by simpa using hfront s hs
      simp [Workspace.table?, hts, List.find?_append, hnone, hkey]
    rw [hsame, hwt] at hfirst
    exact ⟨wk, by rw [Option.some.inj hfirst]⟩

/-- With distinct keys, replacing the current table by one of the same key keeps it
    current. -/
theorem currentTable_of_replaces {t' : Table} (hu : d.UniqueKeys) (ht : d.currentTable = some t)
    (hrep : ReplacesFirstTable t.key t t' d d') (hkey : t'.key = t.key) :
    d'.currentTable = some t' := by
  obtain ⟨w, hw, hwk, -, htk, hwt⟩ := mem_of_currentTable ht
  obtain ⟨hnav, -, pre, w₀, post, front, back, -, hfront, -, hws, hts, hws'⟩ := hrep
  have hw₀ : w₀ ∈ d.workspaces := by simp [hws]
  have hsame : w₀ = w := eq_of_mem_tableKeys hu.tables hw₀ hw
    (by simp [Workspace.tableKeys, hts]) (List.mem_map_of_mem (List.mem_of_find?_eq_some hwt))
  subst hsame
  -- the edited workspace keeps its key, so the workspace keys stay distinct
  have hkeys : d'.workspaceKeys = d.workspaceKeys := by simp [workspaceKeys, hws, hws']
  have hfound : d'.workspace? w₀.key = some { w₀ with tables := front ++ t' :: back } :=
    workspace?_eq_of_mem (w := { w₀ with tables := front ++ t' :: back }) (hkeys ▸ hu.workspaces)
      (by simp [hws'])
  have hnone : front.find? (·.key == t.key) = none :=
    List.find?_eq_none.2 fun s hs => by simpa using hfront s hs
  simp [currentTable, currentWorkspace, hnav, hwk, htk, hfound, Workspace.table?,
    List.find?_append, hnone, hkey]

end Document

theorem one_le_stepPosition (current : Option Nat) (delta : Int) (count : Nat) :
    1 ≤ stepPosition current delta count := by
  unfold stepPosition
  split <;> omega

theorem stepPosition_le (current : Option Nat) (delta : Int) {count : Nat} (h : 1 ≤ count) :
    stepPosition current delta count ≤ count := by
  unfold stepPosition
  split <;> omega

/-- A set position stepped to a place at or after the first is that place, clamped to the
    count. -/
theorem stepPosition_some {c count : Nat} {delta : Int} (hp : 1 ≤ c + delta) (h : 1 ≤ count) :
    stepPosition (some c) delta count = min (c + delta).toNat count := by
  simp only [stepPosition]
  omega

namespace Table

/-- The moved key stands at the position it was moved to, clamped to the end. -/
theorem getElem?_movedKeys {t : Table} {k : Key} (p : Nat) (hk : k ∈ t.columnKeys) :
    (t.movedKeys k p)[min (p - 1) (t.columns.length - 1)]? = some k := by
  unfold movedKeys
  rw [List.getElem?_insertIdx_self, length_erase_shownKeys hk, if_pos (by omega)]

/-- The key of a column in the display sequence is a column key. -/
theorem mem_columnKeys_of_ordered {t : Table} {i : Nat} {col : Column}
    (h : t.ordered[i]? = some col) : col.key ∈ t.columnKeys :=
  t.shownKeys_perm.subset (List.mem_map_of_mem (List.mem_of_getElem? h))

/-- A move that leaves the table as it was asked for the place where the column already
    stood: the position, clamped to the end. -/
theorem position_of_renumber_eq_self {t : Table} {c p : Nat} {col : Column}
    (hkeys : t.columnKeys.Nodup) (hc1 : 1 ≤ c) (hcol : t.ordered[c - 1]? = some col)
    (hp : 1 ≤ p) (hsame : t.renumber (t.movedKeys col.key p) = t) :
    c = min p t.columns.length := by
  have hck := mem_columnKeys_of_ordered hcol
  have hperm := perm_movedKeys p hck
  -- the display sequence is the moved one, where the column stands at the asked place
  have hshown : t.ordered.map (·.key) = t.movedKeys col.key p := by
    have hordered := ordered_renumber (hperm.nodup_iff.1 hkeys) hperm
    rwa [hsame] at hordered
  have hat : (t.ordered.map (·.key))[c - 1]? = some col.key := by simp [hcol]
  have hmovedAt := getElem?_movedKeys p hck
  rw [← hshown] at hmovedAt
  have hlt : c - 1 < (t.ordered.map (·.key)).length := by
    simpa using (List.getElem?_eq_some_iff.1 hcol).1
  have hidx := (List.getElem?_inj hlt (t.shownKeys_perm.nodup_iff.2 hkeys)).1
    (hat.trans hmovedAt.symm)
  have hn : 0 < t.columns.length := by
    simpa [columnKeys] using List.length_pos_of_mem hck
  omega

/-- A renumbering that compares equal to the table changes nothing. -/
theorem renumber_eq_self_of_beq {t : Table} {seq : List Key} (h : (t.renumber seq == t) = true) :
    t.renumber seq = t := by
  have hcols := forall₂_of_beq (beq_parts h).1
  simp only [renumber, List.forall₂_map_left_iff, List.forall₂_same] at hcols
  -- every column keeps its number, so every column is as it was
  have hsame : t.columns.map (fun c => { c with order := seq.idxOf c.key }) = t.columns := by
    refine (List.map_congr_left fun c hc => ?_).trans (List.map_id _)
    have horder : (seq.idxOf c.key : Int) = c.order := Column.order_eq_of_beq (hcols c hc)
    rw [horder]
    rfl
  unfold renumber
  rw [hsame]

/-- The rows left once the rows of a key are removed. -/
def rowsWithout (t : Table) (k : Key) : List Row := t.rows.filter (·.key != k)

/-- Removing the rows of a key the table holds drops at least one row. -/
theorem length_rowsWithout_lt {t : Table} {row : Row} (h : row ∈ t.rows) :
    (t.rowsWithout row.key).length < t.rows.length := by
  refine lt_of_le_of_ne (List.length_filter_le _ _) fun heq => ?_
  have hall := List.length_filter_eq_length_iff.1 heq row h
  simp at hall

/-- Removing the rows of a key the table holds succeeds. -/
theorem removeRowStep_run_of_mem {t : Table} {row : Row} (h : row ∈ t.rows) :
    (removeRowStep row.key).run t = .ok () { t with rows := t.rowsWithout row.key } := by
  have hne : ((t.rowsWithout row.key).length == t.rows.length) = false := by
    simpa using Nat.ne_of_lt (length_rowsWithout_lt h)
  simp only [removeRowStep, EStateM.run_bind, EStateM.run_get, EStateM.run_modify]
  simp only [rowsWithout] at hne
  simp [hne]
  rfl

end Table

/-- Two levels up from a row of a table: from a cell the cursor is forgotten, and from a
    row without a column the row and the table are. -/
theorem Navigation.upBy_two_of_row {n : Navigation} {r : Nat} {tk : Key}
    (hrow : n.cursor.row = some r) (htable : n.table = some tk) :
    n.upBy 2 =
      if n.cursor.col.isSome then { n with cursor := {} } else { n with table := none, cursor := {} } := by
  obtain ⟨w, t, ⟨row, col⟩, v, g⟩ := n
  obtain rfl : row = some r := hrow
  obtain rfl : t = some tk := htable
  cases col <;> rfl

/-! ## Which keys are pressed -/

namespace App

section Dispatch

variable {m : Type → Type} [Monad m] [FileSystem m]

/-- With help hidden and the input line closed, a character typed without Control does
    what the character does. -/
theorem handleKey_char {a : App} (hhelp : a.help = false) (hmode : a.mode = .normal)
    (ch : Char) (now : Nat) : (a.handleKey ⟨.char ch, false⟩ now : m App) = a.charKey ch now := by
  have hnormal : (a.mode != .normal) = false := by
    rw [hmode]
    rfl
  unfold handleKey plainKey
  simp only [hhelp, hnormal, Bool.false_eq_true, if_false]
  rfl

/-- No separator is `>`, `<` or `x`, so these keys move the cursor column and remove the
    cursor row. -/
theorem charKey_cursorKeys (a : App) (now : Nat) :
    (a.charKey '>' now : m App) = a.moveCursorColumn 1 ∧
      (a.charKey '<' now : m App) = a.moveCursorColumn (-1) ∧
      (a.charKey 'x' now : m App) = a.removeCursorRow := by
  unfold charKey separator
  cases a.doc.settings.separator <;> exact ⟨rfl, rfl, rfl⟩

end Dispatch

/-! ## Running keys with any file system held as state -/

variable {σ : Type} [FileSystem (StateM σ)]

/-- The application after a character is typed without Control, the folder being held as
    the state `s`. -/
def typeChar (a : App) (ch : Char) (now : Nat) (s : σ) : App :=
  ((a.handleKey ⟨.char ch, false⟩ now : StateM σ App).run s).1

/-- Making a document current keeps it, whatever saving it does. -/
theorem commit_doc (a : App) (next : Document) (s : σ) :
    ((a.commit next : StateM σ App).run s).1.doc = next := by
  unfold commit
  dsimp only
  split
  · rfl
  · -- the document is set before saving, and a failed save only adds a message
    rename_i f _
    rw [StateT.run_bind]
    rcases (ExceptT.run (f.save next : ExceptT StoreError (StateM σ) Unit)).run s with ⟨r, s'⟩
    cases r <;> rfl

/-- Running an action keeps the new document when it differs from the old one. -/
theorem runAction_doc (a : App) (act : Action) (s : σ) :
    ((a.runAction act : StateM σ (App × Bool)).run s).1.1.doc =
      if (a.doc.execute act == a.doc) = true then a.doc else a.doc.execute act := by
  unfold runAction
  dsimp only
  split
  · rfl
  · rw [StateT.run_bind]
    exact commit_doc a _ s

/-- Going somewhere keeps the navigation it leads to. -/
theorem perform_doc_of_withNav {a : App} {act : Action} {n : Navigation}
    (h : a.doc.execute act = a.doc.withNav n) (s : σ) :
    ((a.perform act : StateM σ App).run s).1.doc = a.doc.withNav n := by
  have hrun := runAction_doc a act s
  rw [h, Document.ite_withNav_beq] at hrun
  unfold perform
  rw [StateT.run_map]
  exact hrun

/-- An accepted edit is kept, and reported as a change, when its document differs from the
    old one. -/
theorem applyEdit_doc {a : App} {e : Edit} {next : Document} (h : a.doc.applyEdit e = .ok next)
    (s : σ) :
    ((a.applyEdit e : StateM σ (App × Bool)).run s).1.1.doc =
        (if (next == a.doc) = true then a.doc else next) ∧
      ((a.applyEdit e : StateM σ (App × Bool)).run s).1.2 = !(next == a.doc) := by
  unfold applyEdit
  rw [h]
  dsimp only
  split
  · rename_i hbeq
    simp only [hbeq, Bool.not_true]
    exact ⟨rfl, rfl⟩
  · rename_i hbeq
    have hdoc := commit_doc a next s
    rw [StateT.run_bind]
    rcases hrun : (a.commit next : StateM σ App).run s with ⟨a', s'⟩
    rw [hrun] at hdoc
    simp only [hbeq, Bool.not_false]
    exact ⟨hdoc, rfl⟩

/-- **Moving the cursor** in a current table with rows and columns sets both positions,
    each stepped and kept within the table. -/
theorem moveCursor_doc {a : App} {t : Table} (ht : a.doc.currentTable = some t)
    (hrows : t.rows ≠ []) (hcols : t.columns ≠ []) (hrmax : t.rows.length ≤ maxPosition)
    (hcmax : t.columns.length ≤ maxPosition) (dRow dCol : Int) (s : σ) :
    ((a.moveCursor dRow dCol : StateM σ App).run s).1.doc =
      a.doc.withNav { a.doc.nav with cursor :=
        ⟨some (stepPosition a.doc.nav.cursor.row dRow t.rows.length),
          some (stepPosition a.doc.nav.cursor.col dCol t.columns.length)⟩ } := by
  have hr1 : 1 ≤ t.rows.length := List.length_pos_iff.2 hrows
  have hc1 : 1 ≤ t.columns.length := List.length_pos_iff.2 hcols
  have hgo := Document.execute_goToCell ht (one_le_stepPosition a.doc.nav.cursor.row dRow _)
    ((stepPosition_le _ _ hr1).trans hrmax) (one_le_stepPosition a.doc.nav.cursor.col dCol _)
    ((stepPosition_le _ _ hc1).trans hcmax)
  have hre : t.rows.isEmpty = false := by simpa using hrows
  have hce : t.columns.isEmpty = false := by simpa using hcols
  unfold moveCursor
  rw [ht]
  dsimp only
  rw [hre, hce, Bool.or_false, if_neg Bool.false_ne_true]
  exact perform_doc_of_withNav hgo s

/-- Where the current table has no rows or no columns, moving the cursor does nothing. -/
theorem moveCursor_of_empty {a : App} {t : Table} (ht : a.doc.currentTable = some t)
    (hempty : t.rows = [] ∨ t.columns = []) (dRow dCol : Int) :
    (a.moveCursor dRow dCol : StateM σ App) = pure a := by
  rcases hempty with hrows | hcols
  · simp [moveCursor, ht, hrows]
  · simp [moveCursor, ht, hcols]

/-- The cursor column of the current table, with its position. -/
theorem cursorColumn?_eq {a : App} {t : Table} {c : Nat} {col : Column}
    (ht : a.doc.currentTable = some t) (hcur : a.doc.nav.cursor.col = some c)
    (hcol : t.ordered[c - 1]? = some col) : a.cursorColumn? = some (t.key, col.key, c) := by
  simp [cursorColumn?, ht, hcur, hcol]

/-- A step of the cursor column to before the first position does nothing. -/
theorem moveCursorColumn_before_first {a : App} {tk ck : Key} {c : Nat} {delta : Int}
    (hcc : a.cursorColumn? = some (tk, ck, c)) (hlt : c + delta < 1) :
    (a.moveCursorColumn delta : StateM σ App) = pure a := by
  unfold moveCursorColumn
  rw [hcc]
  exact if_pos hlt

/-- **Moving the cursor column** by a step that stays at or after the first position, in a
    current table with distinct keys.  The table becomes the one numbered by the moved
    sequence of keys.  The cursor column is stepped, clamped to the last column, when the
    table has rows, and stays where it was when it has none; a move that changes nothing
    had the column already where the step leads. -/
theorem moveCursorColumn_doc {a : App} {t : Table} {c : Nat} {col : Column}
    (hu : a.doc.UniqueKeys) (ht : a.doc.currentTable = some t) (hkeys : t.columnKeys.Nodup)
    (hrmax : t.rows.length ≤ maxPosition) (hcmax : t.columns.length ≤ maxPosition)
    (hcur : a.doc.nav.cursor.col = some c) (hc1 : 1 ≤ c) (hcol : t.ordered[c - 1]? = some col)
    {delta : Int} (hp : 1 ≤ c + delta) (s : σ) :
    let a' := ((a.moveCursorColumn delta : StateM σ App).run s).1
    a'.doc.currentTable = some (t.renumber (t.movedKeys col.key (c + delta).toNat)) ∧
      a'.doc.nav.cursor.col =
        some (if t.rows = [] then c else min (c + delta).toNat t.columns.length) := by
  dsimp only
  have hck := Table.mem_columnKeys_of_ordered hcol
  have hn : 0 < t.columns.length := by
    simpa [Table.columnKeys] using List.length_pos_of_mem hck
  obtain ⟨wk, hfind⟩ := Document.findTable_of_currentTable hu.tables ht
  obtain ⟨hok, hrep⟩ := Document.execute_edit_of_withTable
    (.moveColumn t.key col.key (c + delta).toNat) rfl hfind
    (Table.moveColumnStep_run_of_moveColumn (Table.moveColumn_eq_renumber _ hck))
  have hnext := Document.currentTable_of_replaces hu ht hrep rfl
  obtain ⟨hdoc, hmoved⟩ := applyEdit_doc hok s
  rcases hedit : ((a.applyEdit (.moveColumn t.key col.key (c + delta).toNat) :
    StateM σ (App × Bool)).run s) with ⟨⟨a₁, moved⟩, s₁⟩
  rw [hedit] at hdoc hmoved
  -- the cursor follows only when the edit reports a change
  have hstep : (a.moveCursorColumn delta : StateM σ App).run s =
      (if moved then a₁.moveCursor 0 delta else pure a₁ : StateM σ App).run s₁ := by
    unfold moveCursorColumn
    rw [cursorColumn?_eq ht hcur hcol]
    dsimp only
    rw [if_neg (by omega), StateT.run_bind, hedit]
    rfl
  rw [hstep]
  set p := (c + delta).toNat with hpdef
  set next := a.doc.execute (.edit (.moveColumn t.key col.key p))
  dsimp only at hdoc hmoved
  by_cases hbeq : (next == a.doc) = true
  · -- an unchanged document: the column already stood where it was moved
    rw [hbeq, Bool.not_true] at hmoved
    rw [if_pos hbeq] at hdoc
    have hsame := Table.renumber_eq_self_of_beq (hrep.beq hbeq)
    rw [hmoved, if_neg Bool.false_ne_true]
    show a₁.doc.currentTable = _ ∧ a₁.doc.nav.cursor.col = _
    rw [hdoc, hsame, ht, hcur,
      ← Table.position_of_renumber_eq_self hkeys hc1 hcol (by omega) hsame, ite_self]
    exact ⟨rfl, rfl⟩
  · -- a changed document: the cursor steps, but only within rows
    rw [Bool.not_eq_true] at hbeq
    rw [hbeq, Bool.not_false] at hmoved
    rw [if_neg (by simp [hbeq])] at hdoc
    rw [hmoved, if_pos rfl]
    have hcurrent : a₁.doc.currentTable = some (t.renumber (t.movedKeys col.key p)) := by
      rw [hdoc]
      exact hnext
    by_cases hrows : t.rows = []
    · rw [moveCursor_of_empty hcurrent (.inl hrows), if_pos hrows]
      show a₁.doc.currentTable = _ ∧ a₁.doc.nav.cursor.col = _
      rw [hcurrent, hdoc, hrep.1, hcur]
      exact ⟨rfl, rfl⟩
    · have hlen : (t.renumber (t.movedKeys col.key p)).columns.length = t.columns.length := by
        simp [Table.renumber]
      have hcols : (t.renumber (t.movedKeys col.key p)).columns ≠ [] := by
        rw [← List.length_pos_iff, hlen]
        exact hn
      rw [moveCursor_doc hcurrent hrows hcols hrmax (hlen ▸ hcmax) 0 delta s₁,
        Document.currentTable_withCursor, hcurrent, hlen, if_neg hrows]
      refine ⟨rfl, ?_⟩
      show some (stepPosition a₁.doc.nav.cursor.col delta _) = _
      rw [hdoc, hrep.1, hcur, stepPosition_some hp hn]

/-- Where the moved column lands, in a table with rows: at the stepped position, clamped
    to the last, and the cursor column with it. -/
theorem moveCursorColumn_lands {a : App} {t : Table} {c : Nat} {col : Column}
    (hu : a.doc.UniqueKeys) (ht : a.doc.currentTable = some t) (hkeys : t.columnKeys.Nodup)
    (hrows : t.rows ≠ []) (hrmax : t.rows.length ≤ maxPosition)
    (hcmax : t.columns.length ≤ maxPosition) (hcur : a.doc.nav.cursor.col = some c)
    (hc1 : 1 ≤ c) (hcol : t.ordered[c - 1]? = some col) {delta : Int} (hp : 1 ≤ c + delta)
    (s : σ) :
    let a' := ((a.moveCursorColumn delta : StateM σ App).run s).1
    ∃ t', a'.doc.currentTable = some t' ∧ t'.key = t.key ∧
      a'.doc.nav.cursor.col = some (min (c + delta).toNat t.columns.length) ∧
      (t'.ordered.map (·.key))[min (c + delta).toNat t.columns.length - 1]? = some col.key := by
  dsimp only
  obtain ⟨htable, hcursor⟩ := moveCursorColumn_doc hu ht hkeys hrmax hcmax hcur hc1 hcol hp s
  rw [if_neg hrows] at hcursor
  have hck := Table.mem_columnKeys_of_ordered hcol
  have hperm := Table.perm_movedKeys (c + delta).toNat hck
  refine ⟨_, htable, rfl, hcursor, ?_⟩
  rw [Table.ordered_renumber (hperm.nodup_iff.1 hkeys) hperm]
  have hn : 0 < t.columns.length := by
    simpa [Table.columnKeys] using List.length_pos_of_mem hck
  have hindex : min (c + delta).toNat t.columns.length - 1 =
      min ((c + delta).toNat - 1) (t.columns.length - 1) := by
    omega
  rw [hindex]
  exact Table.getElem?_movedKeys _ hck

/-- The row under the cursor, in the current table. -/
theorem cursorRow?_eq {a : App} {t : Table} {r : Nat} {row : Row}
    (ht : a.doc.currentTable = some t) (hcur : a.doc.nav.cursor.row = some r)
    (hrow : t.rows[r - 1]? = some row) : a.cursorRow? = some (t, row) := by
  simp [cursorRow?, ht, hcur, hrow]

/-- **Removing the cursor row**, in a document with distinct keys, removes the rows of its
    key from the current table, which always changes the document.  With rows left and
    columns the cursor is then put back into the table; with rows left and no columns
    nothing more happens; with no row left the navigation goes up two levels. -/
theorem removeCursorRow_doc {a : App} {t : Table} {r : Nat} {row : Row}
    (hu : a.doc.UniqueKeys) (ht : a.doc.currentTable = some t)
    (hcur : a.doc.nav.cursor.row = some r) (hrow : t.rows[r - 1]? = some row)
    (hrmax : t.rows.length ≤ maxPosition) (hcmax : t.columns.length ≤ maxPosition) (s : σ) :
    let next := a.doc.execute (.edit (.removeRow t.key row.key))
    next.currentTable = some { t with rows := t.rowsWithout row.key } ∧
      ((a.removeCursorRow : StateM σ App).run s).1.doc =
        if t.rowsWithout row.key = [] then next.withNav (next.nav.upBy 2)
        else if t.columns = [] then next
        else next.withNav { next.nav with cursor :=
          ⟨some (stepPosition next.nav.cursor.row 0 (t.rowsWithout row.key).length),
            some (stepPosition next.nav.cursor.col 0 t.columns.length)⟩ } := by
  intro next
  have hmem : row ∈ t.rows := List.mem_of_getElem? hrow
  obtain ⟨wk, hfind⟩ := Document.findTable_of_currentTable hu.tables ht
  obtain ⟨hok, hrep⟩ := Document.execute_edit_of_withTable (.removeRow t.key row.key) rfl hfind
    (Table.removeRowStep_run_of_mem hmem)
  have hnext := Document.currentTable_of_replaces hu ht hrep rfl
  refine ⟨hnext, ?_⟩
  -- the table loses a row, so the document changes
  have hchanged : (next == a.doc) = false := by
    cases hbeq : (next == a.doc)
    · rfl
    · have hrows := List.length_eq_of_beq (Table.beq_parts (hrep.beq hbeq)).2
      have hlt := Table.length_rowsWithout_lt hmem
      simp only at hrows
      omega
  obtain ⟨hdoc, hremoved⟩ := applyEdit_doc hok s
  rcases hedit : ((a.applyEdit (.removeRow t.key row.key) : StateM σ (App × Bool)).run s) with
    ⟨⟨a₁, removed⟩, s₁⟩
  rw [hedit] at hdoc hremoved
  dsimp only at hdoc hremoved
  rw [hchanged, Bool.not_false] at hremoved
  rw [hchanged, if_neg Bool.false_ne_true] at hdoc
  have hcurrent : a₁.doc.currentTable = some { t with rows := t.rowsWithout row.key } := by
    rw [hdoc]
    exact hnext
  -- what follows the removal depends on the rows left
  have hstep : (a.removeCursorRow : StateM σ App).run s =
      (if (a₁.doc.currentTable.map fun t => !t.rows.isEmpty).getD false then a₁.moveCursor 0 0
        else a₁.perform (.select (some (.ascend 2))) : StateM σ App).run s₁ := by
    unfold removeCursorRow
    rw [cursorRow?_eq ht hcur hrow]
    dsimp only
    rw [StateT.run_bind, hedit, hremoved]
    rfl
  rw [hstep, hcurrent]
  by_cases hempty : t.rowsWithout row.key = []
  · have hnone : ((some ({ t with rows := t.rowsWithout row.key } : Table)).map
        fun t => !t.rows.isEmpty).getD false = false := by
      simp [hempty]
    rw [hnone, if_neg Bool.false_ne_true, if_pos hempty,
      perform_doc_of_withNav (Document.execute_ascend a₁.doc 2) s₁, hdoc]
  · have hsome : ((some ({ t with rows := t.rowsWithout row.key } : Table)).map
        fun t => !t.rows.isEmpty).getD false = true := by
      simp [hempty]
    rw [hsome, if_pos rfl, if_neg hempty]
    by_cases hcols : t.columns = []
    · rw [if_pos hcols, moveCursor_of_empty hcurrent (.inr hcols)]
      exact hdoc
    · have hlen : (t.rowsWithout row.key).length ≤ maxPosition :=
        (Nat.le_of_lt (Table.length_rowsWithout_lt hmem)).trans hrmax
      rw [if_neg hcols, moveCursor_doc hcurrent hempty hcols hlen hcmax 0 0 s₁, hdoc]

/-- **The cursor follows a moved column.**  In an application with help hidden and the
    input line closed, whose document has distinct keys and whose current table has rows,
    distinct column keys and a cursor column `c` among its `n` columns, the key `>` moves
    that column to `min (c + 1) n` and the key `<` to `max (c - 1) 1`.  The cursor column
    moves with it: in the same table it designates, in display order, the column it
    designated before.  This holds whatever the folder holds and whatever saving does. -/
theorem moveCursorColumn_follows_column {a : App} {t : Table} {c : Nat}
    (hu : a.doc.UniqueKeys) (ht : a.doc.currentTable = some t) (hkeys : t.columnKeys.Nodup)
    (hrows : t.rows ≠ []) (hrmax : t.rows.length ≤ maxPosition)
    (hcmax : t.columns.length ≤ maxPosition) (hcur : a.doc.nav.cursor.col = some c)
    (hc1 : 1 ≤ c) (hcn : c ≤ t.columns.length) (hhelp : a.help = false)
    (hmode : a.mode = .normal) (ch : Char) (hch : ch = '>' ∨ ch = '<') (now : Nat) (s : σ) :
    let a' := a.typeChar ch now s
    let c' := if ch = '>' then min (c + 1) t.columns.length else max (c - 1) 1
    ∃ t', a'.doc.currentTable = some t' ∧ t'.key = t.key ∧ a'.doc.nav.cursor.col = some c' ∧
      (t'.ordered.map (·.key))[c' - 1]? = (t.ordered.map (·.key))[c - 1]? := by
  intro a' c'
  have hlt : c - 1 < t.ordered.length := by
    rw [t.ordered_perm.length_eq]
    omega
  have hcol : t.ordered[c - 1]? = some t.ordered[c - 1] := List.getElem?_eq_getElem hlt
  have hat : (t.ordered.map (·.key))[c - 1]? = some t.ordered[c - 1].key := by
    simp [hcol]
  -- the key moves the cursor column by one step
  have hkey (delta : Int) (h : a.charKey ch now = (a.moveCursorColumn delta : StateM σ App)) :
      a' = ((a.moveCursorColumn delta : StateM σ App).run s).1 := by
    simp only [a', typeChar, handleKey_char hhelp hmode, h]
  obtain ⟨hright, hleft, -⟩ := charKey_cursorKeys (m := StateM σ) a now
  rcases hch with rfl | rfl
  · -- `>` steps right, clamped to the last column
    have hc' : c' = min (c + 1 : Int).toNat t.columns.length := by
      simp only [c', if_pos]
      omega
    obtain ⟨t', htable, hkey', hcursor, hlands⟩ :=
      moveCursorColumn_lands hu ht hkeys hrows hrmax hcmax hcur hc1 hcol
        (show (1 : Int) ≤ c + 1 by omega) s
    rw [hkey 1 hright, hc', hat]
    exact ⟨t', htable, hkey', hcursor, hlands⟩
  · have hleftward : c' = max (c - 1) 1 := if_neg (by decide)
    by_cases hfirst : c = 1
    · -- `<` at the first column does nothing
      have hstay : (a.moveCursorColumn (-1) : StateM σ App) = pure a :=
        moveCursorColumn_before_first (cursorColumn?_eq ht hcur hcol) (by omega)
      have hc' : c' = c := by
        rw [hleftward]
        omega
      rw [hkey (-1) hleft, hstay, hc']
      exact ⟨t, ht, rfl, hcur, rfl⟩
    · -- `<` steps left from a later column
      have hc' : c' = min (c + -1 : Int).toNat t.columns.length := by
        rw [hleftward]
        omega
      obtain ⟨t', htable, hkey', hcursor, hlands⟩ :=
        moveCursorColumn_lands hu ht hkeys hrows hrmax hcmax hcur hc1 hcol
          (show (1 : Int) ≤ c + -1 by omega) s
      rw [hkey (-1) hleft, hc', hat]
      exact ⟨t', htable, hkey', hcursor, hlands⟩

/-- The application on `Tasks` with the cursor on the first row and the `Status` column. -/
def atTasksStatus : App :=
  App.start (Document.sampleAtTasks.withNav
    { Document.sampleAtTasks.nav with cursor := ⟨some 1, some 2⟩ }) none {}

/-- `>` on `Status`, the second of the three columns of `Tasks`, moves it to the third
    place, and the cursor with it. -/
theorem moveCursorColumn_follows_column_statusRight :
    let a' := atTasksStatus.typeChar '>' 0 ({} : FileTree)
    ∃ t', a'.doc.currentTable = some t' ∧ t'.key = Sample.tasks.key ∧ a'.doc.nav.cursor.col = some 3 ∧
      (t'.ordered.map (·.key))[2]? = (Sample.tasks.ordered.map (·.key))[1]? :=
  moveCursorColumn_follows_column (σ := FileTree) (a := atTasksStatus) (t := Sample.tasks)
    (c := 2) (by decide) rfl (by decide) (by decide) (by decide) (by decide) rfl (by decide)
    (by decide) rfl rfl '>' (.inl rfl) 0 {}

/-- A table with the columns `a` and `b`, in that order, and no rows. -/
def rowlessTable : Table :=
  { key := ⟨"t"⟩, name := "T", rows := [], widths := [],
    columns := [⟨⟨"a"⟩, "A", .text, [], 0⟩, ⟨⟨"b"⟩, "B", .text, [], 1⟩] }

/-- The application on `rowlessTable` with the cursor on its first column and on no row. -/
def rowlessApp : App :=
  App.start
    { workspaces := [⟨⟨"w"⟩, "W", [rowlessTable]⟩]
      nav := { workspace := some ⟨"w"⟩, table := some ⟨"t"⟩, cursor := ⟨none, some 1⟩ } }
    none {}

/-- **In a table without rows the cursor stays behind.**  `>` on the first of two columns
    moves it to the second place, but the cursor, which moves only within rows, stays on
    the first place, now the other column. -/
theorem moveCursorColumn_leaves_cursor_without_rows :
    let a' := rowlessApp.typeChar '>' 0 ({} : FileTree)
    rowlessTable.ordered.map (·.key) = [⟨"a"⟩, ⟨"b"⟩] ∧ a'.doc.nav.cursor.col = some 1 ∧
      ∃ t', a'.doc.currentTable = some t' ∧ t'.ordered.map (·.key) = [⟨"b"⟩, ⟨"a"⟩] := by
  have hshown : rowlessTable.ordered = rowlessTable.columns := by
    simp [rowlessTable, Table.ordered, List.mergeSort]
  have hcol : rowlessTable.ordered[1 - 1]? = some ⟨⟨"a"⟩, "A", .text, [], 0⟩ := by
    rw [hshown]
    rfl
  have hkey : (rowlessApp.handleKey ⟨.char '>', false⟩ 0 : StateM FileTree App) =
      rowlessApp.moveCursorColumn 1 :=
    (handleKey_char rfl rfl '>' 0).trans (charKey_cursorKeys rowlessApp 0).1
  have hp : (1 : Int) ≤ ((1 : Nat) : Int) + 1 := by omega
  obtain ⟨htable, hcursor⟩ := moveCursorColumn_doc (a := rowlessApp) (t := rowlessTable)
    (by decide) rfl (by decide) (by decide) (by decide) rfl le_rfl hcol hp ({} : FileTree)
  have hck := Table.mem_columnKeys_of_ordered hcol
  have hperm := Table.perm_movedKeys (((1 : Nat) : Int) + 1).toNat hck
  have hmoved : rowlessTable.movedKeys ⟨"a"⟩ (((1 : Nat) : Int) + 1).toNat = [⟨"b"⟩, ⟨"a"⟩] := by
    rw [Table.movedKeys, hshown]
    rfl
  dsimp only [typeChar]
  rw [hkey]
  refine ⟨by rw [hshown]; rfl, hcursor, _, htable, ?_⟩
  rw [Table.ordered_renumber (hperm.nodup_iff.1 (by decide)) hperm, hmoved]

/-- **Removing the cursor row keeps the place.**  In an application with help hidden and
    the input line closed, whose document has distinct keys and whose cursor row designates
    a row of the current table, the key `x` removes the rows of that row's key and keeps
    the current workspace.  The current table, without those rows, stays current when
    rows are left or the cursor has a column.  With rows and columns left the cursor is on
    a cell of the table; with no row left and a cursor column the cursor is empty. -/
theorem removeCursorRow_keeps_table {a : App} {t : Table} {r : Nat} {row : Row}
    (hu : a.doc.UniqueKeys) (ht : a.doc.currentTable = some t)
    (hcur : a.doc.nav.cursor.row = some r) (hrow : t.rows[r - 1]? = some row)
    (hrmax : t.rows.length ≤ maxPosition) (hcmax : t.columns.length ≤ maxPosition)
    (hhelp : a.help = false) (hmode : a.mode = .normal) (now : Nat) (s : σ) :
    let a' := a.typeChar 'x' now s
    let t' : Table := { t with rows := t.rowsWithout row.key }
    a'.doc.nav.workspace = a.doc.nav.workspace ∧
      (t'.rows ≠ [] ∨ a.doc.nav.cursor.col.isSome → a'.doc.currentTable = some t') ∧
      (t'.rows ≠ [] → t'.columns ≠ [] → ∃ r' c', a'.doc.nav.cursor = ⟨some r', some c'⟩ ∧
        1 ≤ r' ∧ r' ≤ t'.rows.length ∧ 1 ≤ c' ∧ c' ≤ t'.columns.length) ∧
      (t'.rows = [] → a.doc.nav.cursor.col.isSome → a'.doc.nav.cursor = {}) := by
  intro a' t'
  obtain ⟨hnext, hdoc⟩ := removeCursorRow_doc hu ht hcur hrow hrmax hcmax s
  set next := a.doc.execute (.edit (.removeRow t.key row.key))
  have hkey : (a.handleKey ⟨.char 'x', false⟩ now : StateM σ App) = a.removeCursorRow :=
    (handleKey_char hhelp hmode 'x' now).trans (charKey_cursorKeys a now).2.2
  have ha' := hdoc
  rw [← hkey] at ha'
  change a'.doc = _ at ha'
  -- the removal keeps the navigation, which still has the row and the table
  have hnav : next.nav = a.doc.nav := by
    obtain ⟨wk, hfind⟩ := Document.findTable_of_currentTable hu.tables ht
    exact (Document.execute_edit_of_withTable (.removeRow t.key row.key) rfl hfind
      (Table.removeRowStep_run_of_mem (List.mem_of_getElem? hrow))).2.1
  obtain ⟨w, -, -, -, htk, -⟩ := Document.mem_of_currentTable ht
  have hup := Navigation.upBy_two_of_row (hnav ▸ hcur) (hnav ▸ htk)
  by_cases hempty : t.rowsWithout row.key = []
  · rw [if_pos hempty] at ha'
    by_cases hcol : a.doc.nav.cursor.col.isSome
    · -- from a cell, two levels up forget the cursor
      have hcol' : next.nav.cursor.col.isSome = true := by
        rw [hnav]
        exact hcol
      rw [hcol', if_pos rfl] at hup
      rw [hup] at ha'
      refine ⟨by rw [ha', ← hnav]; rfl, fun _ => ?_, fun h => absurd hempty h,
        fun _ _ => by rw [ha']; rfl⟩
      rw [ha', Document.currentTable_withCursor, hnext]
    · -- from a row alone, two levels up forget the row and the table
      rw [Bool.not_eq_true] at hcol
      have hcol' : next.nav.cursor.col.isSome = false := by
        rw [hnav]
        exact hcol
      rw [hcol', if_neg Bool.false_ne_true] at hup
      rw [hup] at ha'
      refine ⟨by rw [ha', ← hnav]; rfl, fun h => ?_, fun h => absurd hempty h,
        fun _ h => absurd h (by simp [hcol])⟩
      rcases h with h | h
      · exact absurd hempty h
      · simp [hcol] at h
  · rw [if_neg hempty] at ha'
    by_cases hcols : t.columns = []
    · rw [if_pos hcols] at ha'
      refine ⟨by rw [ha', hnav], fun _ => by rw [ha']; exact hnext,
        fun _ h => absurd hcols h, fun h => absurd h hempty⟩
    · -- the cursor is put back on a cell of the table
      rw [if_neg hcols] at ha'
      have hr1 : 1 ≤ (t.rowsWithout row.key).length := List.length_pos_iff.2 hempty
      have hc1 : 1 ≤ t.columns.length := List.length_pos_iff.2 hcols
      refine ⟨by rw [ha', ← hnav]; rfl, fun _ => ?_, fun _ _ => ?_, fun h => absurd h hempty⟩
      · rw [ha', Document.currentTable_withCursor, hnext]
      · refine ⟨_, _, by rw [ha']; rfl, one_le_stepPosition _ _ _, stepPosition_le _ _ hr1,
          one_le_stepPosition _ _ _, stepPosition_le _ _ hc1⟩

/-- `x` on the first row of `Tasks`, with the cursor on a cell, removes it and keeps the
    cursor on a cell of `Tasks`. -/
theorem removeCursorRow_keeps_table_firstTask :
    let a' := atTasksStatus.typeChar 'x' 0 ({} : FileTree)
    let t' : Table := { Sample.tasks with rows := Sample.tasks.rowsWithout ⟨"r:1"⟩ }
    a'.doc.nav.workspace = atTasksStatus.doc.nav.workspace ∧
      (t'.rows ≠ [] ∨ atTasksStatus.doc.nav.cursor.col.isSome → a'.doc.currentTable = some t') ∧
      (t'.rows ≠ [] → t'.columns ≠ [] → ∃ r' c', a'.doc.nav.cursor = ⟨some r', some c'⟩ ∧
        1 ≤ r' ∧ r' ≤ t'.rows.length ∧ 1 ≤ c' ∧ c' ≤ t'.columns.length) ∧
      (t'.rows = [] → atTasksStatus.doc.nav.cursor.col.isSome → a'.doc.nav.cursor = {}) :=
  removeCursorRow_keeps_table (σ := FileTree) (a := atTasksStatus) (t := Sample.tasks) (r := 1)
    (by decide) rfl rfl rfl (by decide) (by decide) rfl rfl 0 {}

/-- A table without columns holding the rows of some keys. -/
def columnlessTable (keys : List String) : Table :=
  { key := ⟨"t"⟩, name := "T", columns := [], widths := [], rows := keys.map (Row.empty ⟨·⟩) }

/-- The application on `columnlessTable keys` with the cursor on a row and on no column. -/
def columnlessApp (keys : List String) (r : Nat) : App :=
  App.start
    { workspaces := [⟨⟨"w"⟩, "W", [columnlessTable keys]⟩]
      nav := { workspace := some ⟨"w"⟩, table := some ⟨"t"⟩, cursor := ⟨some r, none⟩ } }
    none {}

/-- **Without a cursor column the place is not kept.**  `x` on the one row of a table,
    with a cursor that has a row and no column, goes up past the table; and `x` on the
    last of two rows of a table without columns leaves the cursor on the second row of a
    table of one row. -/
theorem removeCursorRow_leaves_table_or_range :
    ((columnlessApp ["r"] 1).typeChar 'x' 0 ({} : FileTree)).doc.nav.table = none ∧
      ((columnlessApp ["r", "s"] 2).typeChar 'x' 0 ({} : FileTree)).doc.nav.cursor.row = some 2 ∧
      ((columnlessApp ["r", "s"] 2).typeChar 'x' 0 ({} : FileTree)).doc.currentTable.map
        (·.rows.length) = some 1 :=
  ⟨rfl, rfl, rfl⟩

end App

end Tabula
