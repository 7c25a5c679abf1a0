import Tabula.Command.Action
/-! # Applying edits

    An edit changes a document in place: it looks up what it names, checks, and then
    changes what it found.  It is an `EStateM EditError Document` step, so that a step
    that fails still hands back the document as it left it; whether a refused edit left
    anything half changed is then a property of the steps below, not of the model.

    Lookups by key take the first match: the first workspace of a key, and the first
    table of a key searching the workspaces in order.  What is found is lent to the change
    (`borrowFirst`, `borrowSome`), the way a mutable reference is: whatever the change did
    to it stays in the document, also when the change then fails.

    Removing a workspace or table moves the navigation to what is left (the first
    workspace and its first table, or the first table left in the same workspace), and a
    grouping column that no table has any more is forgotten.  A resized column is never
    narrower than `minColumnWidth`.

    * `Table.addRowStep` .. `Table.resizeColumnStep` change one table in place;
    * `Document.tryEdit` applies one edit in place;
    * `Document.applyEdit` gives the new document, or the reason the edit was refused. -/

namespace Tabula

/-- Lends the first item for which `act` has a result to that change: the result, and the
    list with the item replaced by the changed one; `none` when no item has one. -/
def borrowSome {α β : Type} (act : α → Option (β × α)) : List α → Option (β × List α)
  | [] => none
  | x :: xs =>
    match act x with
    | some (b, x') => some (b, x' :: xs)
    | none => (borrowSome act xs).map fun (b, xs') => (b, x :: xs')

/-- Lends the first item that passes a test to a change. -/
def borrowFirst {α β : Type} (p : α → Bool) (act : α → β × α) : List α → Option (β × List α) :=
  borrowSome fun x => if p x then some (act x) else none

/-- The state a step left, whether it succeeded or failed. -/
def stateLeft {ε σ α : Type} : EStateM.Result ε σ α → σ
  | .ok _ s => s
  | .error _ s => s

namespace Document

/-- Lends the first workspace of a key to a change that cannot fail. -/
def withWorkspace {β : Type} (k : Key) (act : Workspace → β × Workspace) :
    EStateM EditError Document β := fun d =>
  match borrowFirst (·.key == k) act d.workspaces with
  | none => .error (.notFound .workspace k) d
  | some (b, ws) => .ok b { d with workspaces := ws }

/-- Lends the first table of a key, searching the workspaces in order, to a change of it;
    the table the change leaves is written back whether it succeeded or not. -/
def withTable {α : Type} (k : Key) (act : EStateM EditError Table α) :
    EStateM EditError Document α := fun d =>
  let lend : Workspace → Option (EStateM.Result EditError Table α × Workspace) := fun w =>
    (borrowFirst (·.key == k) (fun t => (act.run t, stateLeft (act.run t))) w.tables).map
      fun (r, ts) => (r, { w with tables := ts })
  match borrowSome lend d.workspaces with
  | none => .error (.notFound .table k) d
  | some (.ok a _, ws) => .ok a { d with workspaces := ws }
  | some (.error e _, ws) => .error e { d with workspaces := ws }

/-- Whether some table of some workspace has a column of a key. -/
def columnExists (d : Document) (k : Key) : Bool :=
  d.workspaces.any fun w => w.tables.any fun t => t.hasColumn k

/-- Forgets the grouping column when no table has it any more. -/
def clearRemovedGroupBy (d : Document) : Document :=
  match d.nav.groupBy with
  | some c => if d.columnExists c then d else d.withNav { d.nav with groupBy := none }
  | none => d

end Document

namespace Table

/-- Moves a column to a position of the display sequence and numbers all columns by their
    place in it. -/
def moveColumn (t : Table) (k : Key) (position : Nat) : Except EditError Table :=
  let order := t.ordered.map (·.key)
  match order.idxOf? k with
  | none => .error (.notFound .column k)
  | some src =>
    let rest := order.eraseIdx src
    let dst := min (position - 1) rest.length
    let order := rest.insertIdx dst k
    .ok { t with columns := t.columns.map fun c =>
      match order.idxOf? c.key with
      | some i => { c with order := i }
      | none => c }

/-- Removes a column with its cells and width. -/
def removeColumn (t : Table) (k : Key) : Table :=
  { t with
    columns := t.columns.filter (·.key != k)
    rows := t.rows.map fun r => { r with cells := r.cells.erase k }
    widths := t.widths.erase k }

/-- Adds a row of a key the table does not hold yet. -/
def addRowStep (r : Row) : EStateM EditError Table Unit := do
  if (← get).hasRow r.key then throw (.alreadyExists .row r.key)
  modify fun t => { t with rows := t.rows ++ [r] }

/-- Removes the rows of a key.  The rows are dropped first; an unknown row is noticed
    afterwards, by the count. -/
def removeRowStep (k : Key) : EStateM EditError Table Unit := do
  let before := (← get).rows.length
  modify fun t => { t with rows := t.rows.filter (·.key != k) }
  if (← get).rows.length == before then throw (.notFound .row k)

/-- Adds a column of a key the table does not have yet, after the last in display order. -/
def addColumnStep (k : Key) (name : String) (kind : ColumnKind) (options : List String) :
    EStateM EditError Table Unit := do
  if (← get).hasColumn k then throw (.alreadyExists .column k)
  modify fun t => { t with columns := t.columns ++ [⟨k, name, kind, options, t.nextOrder⟩] }

/-- Renames the first column of a key. -/
def renameColumnStep (k : Key) (name : String) : EStateM EditError Table Unit := do
  let t ← get
  match borrowFirst (·.key == k) (fun c => ((), { c with name := name })) t.columns with
  | none => throw (.notFound .column k)
  | some ((), cs) => set { t with columns := cs }

/-- Moves a column to a position of the display sequence. -/
def moveColumnStep (k : Key) (position : Nat) : EStateM EditError Table Unit := do
  match (← get).moveColumn k position with
  | .error e => throw e
  | .ok t => set t

/-- Removes a column the table has, with its cells and width. -/
def removeColumnStep (k : Key) : EStateM EditError Table Unit := do
  if !(← get).hasColumn k then throw (.notFound .column k)
  modify (·.removeColumn k)

/-- Stores a value in a cell of the first row of a key, in a column the table has. -/
def editCellStep (rk ck : Key) (v : Json.Value) : EStateM EditError Table Unit := do
  let t ← get
  if !t.hasColumn ck then throw (.notFound .column ck)
  match borrowFirst (·.key == rk) (fun r => ((), r.set ck v)) t.rows with
  | none => throw (.notFound .row rk)
  | some ((), rows) => set { t with rows := rows }

/-- Gives a column the table has a width of at least `minColumnWidth`. -/
def resizeColumnStep (k : Key) (width : Nat) : EStateM EditError Table Unit := do
  if !(← get).hasColumn k then throw (.notFound .column k)
  modify fun t => { t with widths := t.widths.insert k (max width minColumnWidth) }

end Table

namespace Document

/-- Applies an edit in place, failing with the reason it is refused. -/
def tryEdit : Edit → EStateM EditError Document Unit
  | .addWorkspace w => do
    if (← get).hasWorkspace w.key then throw (.alreadyExists .workspace w.key)
    modify fun d => { d with workspaces := d.workspaces ++ [w] }
  | .renameWorkspace k name => withWorkspace k fun w => ((), { w with name := name })
  | .removeWorkspace k => do
    let some i := (← get).workspaces.findIdx? (·.key == k)
      | throw (.notFound .workspace k)
    modify fun d => { d with workspaces := d.workspaces.eraseIdx i }
    if (← get).nav.workspace == some k then
      modify fun d => d.withNav <| match d.workspaces.head? with
        | some w => (d.nav.selectWorkspace (some w.key)).selectTable (w.tables.head?.map (·.key))
        | none => d.nav.selectWorkspace none
    modify clearRemovedGroupBy
  | .addTable wk t => do
    if ((← get).findTable t.key).isSome then throw (.alreadyExists .table t.key)
    withWorkspace wk fun w => ((), { w with tables := w.tables ++ [t] })
    if (← get).nav.workspace == some wk then
      modify fun d => d.withNav (d.nav.selectTable (some t.key))
  | .renameTable k name => withTable k (modify fun t => { t with name := name })
  | .removeTable k => do
    let some (owner, _) := (← get).findTable k | throw (.notFound .table k)
    let fallback ← withWorkspace owner fun w =>
      let left := w.tables.filter (·.key != k)
      (left.head?.map (·.key), { w with tables := left })
    if (← get).nav.table == some k then
      modify fun d => d.withNav (d.nav.selectTable fallback)
    modify clearRemovedGroupBy
  | .addRow tk r => withTable tk (Table.addRowStep r)
  | .removeRow tk rk => withTable tk (Table.removeRowStep rk)
  | .addColumn tk ck name kind options => withTable tk (Table.addColumnStep ck name kind options)
  | .renameColumn tk ck name => withTable tk (Table.renameColumnStep ck name)
  | .moveColumn tk ck position => withTable tk (Table.moveColumnStep ck position)
  | .removeColumn tk ck => do
    withTable tk (Table.removeColumnStep ck)
    if (← get).nav.groupBy == some ck then
      modify fun d => d.withNav { d.nav with groupBy := none }
  | .editCell tk rk ck v => withTable tk (Table.editCellStep rk ck v)
  | .resizeColumn tk ck width => withTable tk (Table.resizeColumnStep ck width)
  | .selectWorkspace k => do
    let some w := (← get).workspace? k | throw (.notFound .workspace k)
    modify fun d =>
      d.withNav ((d.nav.selectWorkspace (some k)).selectTable (w.tables.head?.map (·.key)))
  | .selectTable wk tk => do
    let some w := (← get).workspace? wk | throw (.notFound .workspace wk)
    if !w.hasTable tk then throw (.notFound .table tk)
    modify fun d => d.withNav ((d.nav.selectWorkspace (some wk)).selectTable (some tk))
  | .setGroupBy c => do
    if let some c := c then
      let some t := (← get).currentTable | throw .noCurrentTable
      if !t.hasColumn c then throw (.notFound .column c)
    modify fun d => d.withNav { d.nav with groupBy := c }
  | .goToLevel l => modify fun d => d.withNav (d.nav.truncate l)
  | .toggleSidebar =>
    modify fun d => { d with settings := { d.settings with sidebarOpen := !d.settings.sidebarOpen } }
  | .setSeparator s => modify fun d => { d with settings := { d.settings with separator := s } }

/-- Applies an edit, or says why it is refused. -/
def applyEdit (d : Document) (e : Edit) : Except EditError Document :=
  match (tryEdit e).run d with
  | .ok _ next => .ok next
  | .error err _ => .error err

end Document

end Tabula
