import Tabula.Model.Key
/-! # Navigation

    Where the user stands: a workspace, a table inside it, and a cursor of a row and a
    column position, counted from one.  Besides the place, navigation keeps the view of
    the table and the column a kanban view groups by.

    The place has four levels, workspace, table, row and column; the depth is the deepest
    level that is set.  Choosing a workspace forgets the table and the cursor, choosing a
    table forgets the cursor, and going up one level forgets the deepest field that is set.

    * `Navigation.depth`, `Navigation.up`, `Navigation.truncate` work on the levels;
    * `View.keyword?` reads a view name in any ASCII case. -/

namespace Tabula

/-- How a table is shown. -/
inductive View where
  | table
  | kanban
  deriving DecidableEq, BEq, Inhabited

/-- The name of a view. -/
def View.name : View → String
  | .table => "table"
  | .kanban => "kanban"

/-- A view name, in any ASCII case. -/
def View.keyword? (w : String) : Option View :=
  if w.toLower == "table" then some .table
  else if w.toLower == "kanban" then some .kanban
  else none

/-- The four levels of a place, from the top. -/
inductive Level where
  | workspace
  | table
  | row
  | column
  deriving DecidableEq, BEq

/-- The name of a level. -/
def Level.name : Level → String
  | .workspace => "workspace"
  | .table => "table"
  | .row => "row"
  | .column => "column"

/-- Row and column positions, each counted from one when set. -/
structure Cursor where
  row : Option Nat := none
  col : Option Nat := none
  deriving DecidableEq, BEq, Inhabited

/-- Whether neither position is set. -/
def Cursor.isEmpty (c : Cursor) : Bool := c.row.isNone && c.col.isNone

/-- The place, view and grouping column of the user. -/
structure Navigation where
  workspace : Option Key := none
  table : Option Key := none
  cursor : Cursor := {}
  view : View := .table
  groupBy : Option Key := none
  deriving DecidableEq, BEq, Inhabited

namespace Navigation

/-- Chooses a workspace, forgetting table and cursor. -/
def selectWorkspace (n : Navigation) (w : Option Key) : Navigation :=
  { n with workspace := w, table := none, cursor := {} }

/-- Chooses a table, forgetting the cursor. -/
def selectTable (n : Navigation) (t : Option Key) : Navigation :=
  { n with table := t, cursor := {} }

/-- Forgets workspace, table and cursor; view and grouping stay. -/
def home (n : Navigation) : Navigation :=
  { n with workspace := none, table := none, cursor := {} }

/-- The deepest level that is set. -/
def depth (n : Navigation) : Option Level :=
  if n.cursor.col.isSome then some .column
  else if n.cursor.row.isSome then some .row
  else if n.table.isSome then some .table
  else if n.workspace.isSome then some .workspace
  else none

/-- Forgets the deepest field that is set; at the top nothing changes. -/
def up (n : Navigation) : Navigation :=
  if n.cursor.col.isSome then { n with cursor := { n.cursor with col := none } }
  else if n.cursor.row.isSome then { n with cursor := { n.cursor with row := none } }
  else if n.table.isSome then { n with table := none }
  else if n.workspace.isSome then { n with workspace := none }
  else n

/-- Goes up `k` levels, stopping at the top. -/
def upBy (n : Navigation) : Nat → Navigation
  | 0 => n
  | k + 1 => (n.up).upBy k

/-- Keeps the fields down to a level and forgets those below it. -/
def truncate (n : Navigation) : Level → Navigation
  | .workspace => { n with table := none, cursor := {} }
  | .table => { n with cursor := {} }
  | .row => { n with cursor := { n.cursor with col := none } }
  | .column => n

end Navigation

end Tabula
