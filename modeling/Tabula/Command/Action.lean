import Tabula.Command.Path
import Tabula.Model.Document
/-! # Actions

    What a user can do to a document: go to a path or home, change the view (going to a
    path first, and choosing the grouping column of a kanban view), or make an edit.  A
    command line that says none of these is the unknown action, which changes nothing.

    Edits change workspaces, tables, columns, rows and cells, or choose a place, a
    grouping column, a level, the sidebar or the command separator directly by key. -/

namespace Tabula

/-- A change to a document, naming what it changes by key. -/
inductive Edit where
  | addWorkspace (workspace : Workspace)
  | renameWorkspace (workspace : Key) (name : String)
  | removeWorkspace (workspace : Key)
  | addTable (workspace : Key) (table : Table)
  | renameTable (table : Key) (name : String)
  | removeTable (table : Key)
  | addRow (table : Key) (row : Row)
  | removeRow (table : Key) (row : Key)
  | addColumn (table : Key) (column : Key) (name : String) (kind : ColumnKind)
      (options : List String)
  | renameColumn (table : Key) (column : Key) (name : String)
  /-- Moves a column to a position of the display sequence, counted from one. -/
  | moveColumn (table : Key) (column : Key) (position : Nat)
  | removeColumn (table : Key) (column : Key)
  | editCell (table : Key) (row : Key) (column : Key) (value : Json.Value)
  | resizeColumn (table : Key) (column : Key) (width : Nat)
  | selectWorkspace (workspace : Key)
  | selectTable (workspace : Key) (table : Key)
  | setGroupBy (column : Option Key)
  | goToLevel (level : Level)
  | toggleSidebar
  | setSeparator (separator : Separator)

/-- What a command line or key asks for. -/
inductive Action where
  /-- Go to a path, or home when there is none. -/
  | select (path : Option Path)
  /-- Go to a path if one is given, show the view, and group a kanban view. -/
  | changeView (view : View) (path : Option Path) (groupBy : Option String)
  | edit (e : Edit)
  | unknown

/-- The four kinds of things an edit names. -/
inductive Entity where
  | workspace
  | table
  | column
  | row
  deriving DecidableEq, BEq

/-- The name of an entity kind. -/
def Entity.name : Entity → String
  | .workspace => "workspace"
  | .table => "table"
  | .column => "column"
  | .row => "row"

/-- Why an edit was refused. -/
inductive EditError where
  | notFound (kind : Entity) (key : Key)
  | alreadyExists (kind : Entity) (key : Key)
  | noCurrentTable
  deriving DecidableEq, BEq

/-- The words for a refused edit. -/
def EditError.message : EditError → String
  | .notFound kind key => kind.name ++ " not found (id=" ++ key.text ++ ")"
  | .alreadyExists kind key => kind.name ++ " already exists (id=" ++ key.text ++ ")"
  | .noCurrentTable => "no table is selected"

end Tabula
