import Tabula.App.State
import Tabula.Command.Line
import Tabula.Query.Kanban
/-! # What keys do

    Every change a key makes goes through an action or an edit of the command layer; the
    application only decides which one a key stands for, keeps the changed document, and
    saves it to its folder.  A refused edit, a failed save and a failed backup are shown
    as a message and change nothing else.

    * with help shown, `Esc`, `?` and `q` close it and every other key does nothing;
    * with the input line open, characters are typed, `Backspace` deletes the last one,
      `Esc` closes the line and `Enter` runs it: a command, or the new text of a cell;
    * otherwise `hjkl` and the arrows move the cursor within the table, `Tab` cycles the
      tables of every workspace, `Backspace` goes up a level, `Home` goes home, and single
      letters add or remove rows, columns, tables and workspaces, move or resize the
      cursor column, change the view and grouping, or take a backup;
    * `Ctrl-C` quits, `Ctrl-B` toggles the sidebar and `Ctrl-K` opens the command line.

    Operations run in any monad with a file system, since saving and backups write files. -/

namespace Tabula

/-- A position counted from one moved by a step and kept between one and a count; an
    unset position starts at one. -/
def stepPosition (current : Option Nat) (delta : Int) (count : Nat) : Nat :=
  match current with
  | none => 1
  | some p => min (max (p + delta).toNat 1) (max count 1)

/-- An index moved by a step around a cycle of a length. -/
def wrapIndex (i : Nat) (delta : Int) (length : Nat) : Nat :=
  ((i + delta) % (length : Int)).toNat

/-- How much one key widens or narrows a column. -/
def resizeStep : Nat := 40

/-- The widest a column can be made. -/
def widestColumn : Nat := Nat.pow 2 32 - 1

namespace App

variable {m : Type → Type} [Monad m] [FileSystem m]

/-- Makes a document the current one and saves it to the folder, if there is one; a
    failed save is shown as a message. -/
def commit (a : App) (next : Document) : m App := do
  let a := { a with doc := next }
  match a.folder with
  | none => pure a
  | some f =>
    match ← (f.save next).run with
    | .ok _ => pure a
    | .error e => pure (a.say ("Save failed: " ++ e.message))

/-- Runs an action, and says whether the document changed. -/
def runAction (a : App) (act : Action) : m (App × Bool) := do
  let next := a.doc.execute act
  if next == a.doc then pure (a, false) else pure (← a.commit next, true)

/-- Applies an edit, and says whether the document changed; a refused edit is shown as a
    message. -/
def applyEdit (a : App) (e : Edit) : m (App × Bool) :=
  match a.doc.applyEdit e with
  | .ok next => if next == a.doc then pure (a, false) else do pure (← a.commit next, true)
  | .error err => pure (a.say err.message, false)

/-- Runs an action for its effect alone. -/
def perform (a : App) (act : Action) : m App := Prod.fst <$> a.runAction act

/-- Applies an edit for its effect alone. -/
def change (a : App) (e : Edit) : m App := Prod.fst <$> a.applyEdit e

/-- Writes a backup of the document and notes the time, whether it worked or not, so that
    a failed backup is tried again only an interval later. -/
def createBackup (a : App) (now : Nat) : m App := do
  match a.folder with
  | none => pure (a.say "No workspace folder to back up")
  | some f =>
    let r ← (f.createArchive a.doc).run
    let a := { a with autoBackup := a.autoBackup.record now }
    match r with
    | .ok info => pure (a.say ("Backup created: " ++ info.name.text))
    | .error e => pure (a.say ("Backup failed: " ++ e.message))

/-- Takes a backup when there is a folder and one is due. -/
def tick (a : App) (now : Nat) : m App :=
  if a.folder.isSome && a.autoBackup.isDue now then a.createBackup now else pure a

/-- Goes to a cell by its row and column positions. -/
def goToCell (a : App) (row col : Nat) : m App :=
  a.perform (.select (some (.descend (.two (toString row) (toString col)))))

/-- Moves the cursor by rows and columns within the current table. -/
def moveCursor (a : App) (dRow dCol : Int) : m App :=
  match a.doc.currentTable with
  | none => pure (a.say "No table selected")
  | some t =>
    if t.rows.isEmpty || t.columns.isEmpty then pure a
    else
      let c := a.doc.nav.cursor
      a.goToCell (stepPosition c.row dRow t.rows.length) (stepPosition c.col dCol t.columns.length)

/-- Selects the next or previous table, counting the tables of all workspaces in order;
    with none selected, the first or the last. -/
def cycleTable (a : App) (delta : Int) : m App :=
  let tables := a.doc.workspaces.flatMap fun w => w.tables.map fun t => (w.key, t.key)
  if tables.isEmpty then pure (a.say "No tables")
  else
    let next := match tables.findIdx? (fun p => some p.2 == a.doc.nav.table) with
      | some i => wrapIndex i delta tables.length
      | none => if delta < 0 then tables.length - 1 else 0
    match tables[next]? with
    | some (w, t) => a.change (.selectTable w t)
    | none => pure a

/-- Switches between the table and kanban views; a kanban view without a grouping column
    is grouped by the first select column. -/
def toggleView (a : App) : m App :=
  match a.doc.currentTable with
  | none => pure (a.say "No table selected")
  | some t =>
    match a.doc.nav.view with
    | .kanban => a.perform (.changeView .table none none)
    | .table =>
      let groupBy := if a.doc.nav.groupBy.isSome then none
        else (t.ordered.findIdx? (·.kind == .select)).map fun i => toString (i + 1)
      a.perform (.changeView .kanban none groupBy)

/-- Groups by the column after the grouping one in display order, or the first. -/
def cycleGroupBy (a : App) : m App :=
  match a.doc.currentTable with
  | none => pure (a.say "No table selected")
  | some t =>
    let columns := t.ordered.map (·.key)
    if columns.isEmpty then pure (a.say "Table has no columns")
    else
      let next := match columns.findIdx? (fun k => some k == a.doc.nav.groupBy) with
        | some i => wrapIndex i 1 columns.length
        | none => 0
      match columns[next]? with
      | some k => a.change (.setGroupBy (some k))
      | none => pure a

/-- The current table and the row under the cursor. -/
def cursorRow? (a : App) : Option (Table × Row) := do
  let t ← a.doc.currentTable
  let r ← a.doc.nav.cursor.row
  let row ← t.rows[r - 1]?
  pure (t, row)

/-- The current table, the column under the cursor and its position. -/
def cursorColumn? (a : App) : Option (Key × Key × Nat) := do
  let t ← a.doc.currentTable
  let c ← a.doc.nav.cursor.col
  let col ← t.ordered[c - 1]?
  pure (t.key, col.key, c)

/-- Opens the input line on the text of the cell under the cursor. -/
def beginCellEdit (a : App) : App :=
  match a.doc.currentTable with
  | none => a.say "No table selected"
  | some t =>
    match a.doc.nav.cursor.row, a.doc.nav.cursor.col with
    | some r, some c =>
      match t.rows[r - 1]?, t.ordered[c - 1]? with
      | some row, some col =>
        a.openInput (.editCell t.key row.key col.key col.kind) (cellText (row.get? col.key))
      | _, _ => a.say "Cursor is outside the table"
    | _, _ => a.say "Move the cursor onto a cell first"

/-- Adds an empty row at the end of the current table and goes to it, in the cursor's
    column or the first. -/
def addRow (a : App) : m App :=
  match a.doc.currentTable with
  | none => pure (a.say "No table selected")
  | some t => do
    let col := a.doc.nav.cursor.col.getD 1
    let (row, a) := a.fresh newRow
    let (a, added) ← a.applyEdit (.addRow t.key row)
    if added then a.goToCell (t.rows.length + 1) col else pure a

/-- Removes the row under the cursor; the cursor then stays in the table if rows are left,
    and goes up to the table otherwise. -/
def removeCursorRow (a : App) : m App :=
  match a.cursorRow? with
  | none => pure (a.say "Move the cursor onto a row first")
  | some (t, r) => do
    let (a, removed) ← a.applyEdit (.removeRow t.key r.key)
    if !removed then pure a
    else if (a.doc.currentTable.map fun t => !t.rows.isEmpty).getD false then a.moveCursor 0 0
    else a.perform (.select (some (.ascend 2)))

/-- Adds a text column after the others, named by its number. -/
def addColumn (a : App) : m App :=
  match a.doc.currentTable with
  | none => pure (a.say "No table selected")
  | some t =>
    let name := "Column " ++ toString (t.columns.length + 1)
    let (col, a) := a.fresh (newColumn name .text [] t.nextOrder)
    a.change (.addColumn t.key col.key col.name col.kind [])

/-- Moves the cursor column one place left or right, and the cursor with it. -/
def moveCursorColumn (a : App) (delta : Int) : m App :=
  match a.cursorColumn? with
  | none => pure (a.say "Move the cursor onto a column first")
  | some (t, c, pos) =>
    let target := (pos : Int) + delta
    if target < 1 then pure a
    else do
      let (a, moved) ← a.applyEdit (.moveColumn t c target.toNat)
      if moved then a.moveCursor 0 delta else pure a

/-- Widens or narrows the cursor column by one step. -/
def resizeCursorColumn (a : App) (wider : Bool) : m App :=
  match a.cursorColumn? with
  | none => pure (a.say "Move the cursor onto a column first")
  | some (t, c, _) =>
    let current := (a.doc.currentTable.bind (·.width? c)).getD defaultColumnWidth
    let width := if wider then min (current + resizeStep) widestColumn else current - resizeStep
    a.change (.resizeColumn t c width)

/-- Adds a default table to the current workspace, named by its number. -/
def addTable (a : App) : m App :=
  match a.doc.currentWorkspace with
  | none => pure (a.say "No workspace selected")
  | some w =>
    let (t, a) := a.fresh (defaultTable ("Table " ++ toString (w.tables.length + 1)))
    a.change (.addTable w.key t)

/-- Adds a default workspace, named by its number, and selects it. -/
def addWorkspace (a : App) : m App := do
  let (w, a) := a.fresh (defaultWorkspace ("Workspace " ++ toString (a.doc.workspaces.length + 1)))
  let (a, added) ← a.applyEdit (.addWorkspace w)
  if added then a.change (.selectWorkspace w.key) else pure a

/-- Runs a command line; blank text does nothing, and a command that changes nothing
    says so. -/
def runCommand (a : App) (text : String) : m App :=
  if Text.isBlankText text then pure a
  else
    match parseCommand text a.doc.settings.separator with
    | .unknown => pure (a.say ("Unknown command: " ++ Text.trim text))
    | act => do
      let (a, changed) ← a.runAction act
      pure (if changed then a else a.say "No change")

/-- Closes the input line and runs what was typed. -/
def commitInput (a : App) : m App :=
  let mode := a.mode
  let text := a.input
  let a := { a with mode := .normal, input := "" }
  match mode with
  | .normal => pure a
  | .command => a.runCommand text
  | .editCell t r c kind => a.change (.editCell t r c (kind.entry text))

/-- What a key does while the input line is open. -/
def inputKey (a : App) (code : KeyCode) : m App :=
  match code with
  | .escape => pure { a with mode := .normal, input := "" }
  | .enter => a.commitInput
  | .backspace => pure { a with input := String.ofList a.input.toList.dropLast }
  | .char c => pure { a with input := a.input.push c }
  | _ => pure a

/-- What a character key does with the input line closed; `now` is when it is pressed. -/
def charKey (a : App) (c : Char) (now : Nat) : m App :=
  if c == 'q' then pure { a with quit := true }
  else if c == '?' then pure { a with help := true }
  else if c == ':' then pure (a.openInput .command "")
  else if c == a.separator then pure (a.openInput .command (toString c))
  else
    match c with
    | 'k' => a.moveCursor (-1) 0
    | 'j' => a.moveCursor 1 0
    | 'h' => a.moveCursor 0 (-1)
    | 'l' => a.moveCursor 0 1
    | 'v' => a.toggleView
    | 'g' => a.cycleGroupBy
    | 'e' => pure a.beginCellEdit
    | 'n' => a.addRow
    | 'x' => a.removeCursorRow
    | 'c' => a.addColumn
    | '<' => a.moveCursorColumn (-1)
    | '>' => a.moveCursorColumn 1
    | '-' => a.resizeCursorColumn false
    | '+' => a.resizeCursorColumn true
    | 'N' => a.addTable
    | 'W' => a.addWorkspace
    | 'B' => a.createBackup now
    | _ => pure a

/-- What a key does with the input line closed. -/
def normalKey (a : App) (code : KeyCode) (now : Nat) : m App :=
  match code with
  | .char c => a.charKey c now
  | .up => a.moveCursor (-1) 0
  | .down => a.moveCursor 1 0
  | .left => a.moveCursor 0 (-1)
  | .right => a.moveCursor 0 1
  | .tab => a.cycleTable 1
  | .backTab => a.cycleTable (-1)
  | .backspace => a.perform (.select (some (.ascend 1)))
  | .home => a.perform (.select none)
  | .enter => pure a.beginCellEdit
  | _ => pure a

/-- What a key does without Control. -/
def plainKey (a : App) (code : KeyCode) (now : Nat) : m App :=
  if a.help then
    pure (if code == .escape || code == .char '?' || code == .char 'q' then { a with help := false }
      else a)
  else if a.mode != .normal then a.inputKey code
  else a.normalKey code now

/-- Handles a key press at a time. -/
def handleKey (a : App) (key : KeyPress) (now : Nat) : m App :=
  if key.control then
    match key.code with
    | .char 'c' => pure { a with quit := true }
    | .char 'b' => a.change .toggleSidebar
    | .char 'k' => pure (a.openInput .command "")
    | code => a.plainKey code now
  else a.plainKey key.code now

end App

end Tabula
