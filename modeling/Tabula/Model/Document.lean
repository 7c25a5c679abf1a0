import Tabula.Model.Table
import Tabula.Model.Navigation
/-! # Documents

    A document is what one folder stores: workspaces of tables, the navigation, and the
    settings (whether the sidebar is open, and which character starts a command).

    A workspace is found by key, the first of equal keys winning.  A table is found in any
    workspace, the first workspace holding it winning; the current table is looked up
    inside the current workspace only.

    * `Document.repair` makes the navigation point at what exists: a workspace that is not
      there is forgotten with table and cursor, a table without a workspace or outside it
      is forgotten with the cursor. -/

namespace Tabula

/-- A workspace: key, name and tables in storage order. -/
structure Workspace where
  key : Key
  name : String
  tables : List Table
  deriving BEq

/-- The first table of a key in a workspace. -/
def Workspace.table? (w : Workspace) (k : Key) : Option Table := w.tables.find? (·.key == k)

/-- Whether a workspace holds a table of a key. -/
def Workspace.hasTable (w : Workspace) (k : Key) : Bool := w.tables.any (·.key == k)

/-- The character that starts a command. -/
inductive Separator where
  | slash
  | backslash
  | pipe
  deriving DecidableEq, BEq, Inhabited

/-- The character of a separator. -/
def Separator.char : Separator → Char
  | .slash => '/'
  | .backslash => '\\'
  | .pipe => '|'

/-- The separator of a character, if it is one. -/
def Separator.ofChar? (c : Char) : Option Separator :=
  if c = '/' then some .slash else if c = '\\' then some .backslash
  else if c = '|' then some .pipe else none

/-- Whether the sidebar is open, and the command separator. -/
structure Settings where
  sidebarOpen : Bool := true
  separator : Separator := .slash
  deriving DecidableEq, BEq, Inhabited

/-- Workspaces, navigation and settings. -/
structure Document where
  workspaces : List Workspace
  nav : Navigation := {}
  settings : Settings := {}
  deriving BEq

namespace Document

/-- The first workspace of a key. -/
def workspace? (d : Document) (k : Key) : Option Workspace :=
  d.workspaces.find? (·.key == k)

/-- Whether a workspace of a key exists. -/
def hasWorkspace (d : Document) (k : Key) : Bool := d.workspaces.any (·.key == k)

/-- The first table of a key in any workspace, with the key of its workspace. -/
def findTable (d : Document) (k : Key) : Option (Key × Table) :=
  d.workspaces.findSome? fun w => (w.table? k).map fun t => (w.key, t)

/-- The current workspace. -/
def currentWorkspace (d : Document) : Option Workspace :=
  d.nav.workspace.bind d.workspace?

/-- The current table, inside the current workspace. -/
def currentTable (d : Document) : Option Table := do
  let w ← d.currentWorkspace
  let t ← d.nav.table
  w.table? t

/-- Replaces the navigation. -/
def withNav (d : Document) (n : Navigation) : Document := { d with nav := n }

/-- Makes the navigation point at what exists. -/
def repair (d : Document) : Document :=
  let n := d.nav
  match n.workspace with
  | none => if n.table.isSome then d.withNav (n.selectTable none) else d
  | some w =>
    match d.workspace? w with
    | none => d.withNav (n.selectWorkspace none)
    | some ws =>
      match n.table with
      | some t => if ws.hasTable t then d else d.withNav (n.selectTable none)
      | none => d

/-- Applies a change to every table of a key, in every workspace. -/
def mapTable (d : Document) (k : Key) (f : Table → Table) : Document :=
  { d with workspaces := d.workspaces.map fun w =>
      { w with tables := w.tables.map fun t => if t.key == k then f t else t } }

end Document

end Tabula
