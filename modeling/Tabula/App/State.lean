import Tabula.Command.Execute
import Tabula.Command.Edit
import Tabula.Store.Folder
import Tabula.Model.Fresh
import Tabula.Model.Entry
/-! # The interactive application

    The state of the full-screen program: the document, the folder it is saved to if any,
    when the last backup was made, what the input line is taking and what has been typed
    into it, whether help is shown, the last message, whether the user asked to quit, and
    where fresh keys come from.

    * the input line is closed, takes a command, or edits one cell of a table, remembering
      which cell and of what kind its column is;
    * a key press is a key and whether Control was held. -/

namespace Tabula

/-- What the input line is taking. -/
inductive InputMode where
  | normal
  | command
  | editCell (table row column : Key) (kind : ColumnKind)
  deriving DecidableEq, BEq

/-- A key of the keyboard. -/
inductive KeyCode where
  | char (c : Char)
  | enter
  | escape
  | backspace
  | tab
  | backTab
  | up
  | down
  | left
  | right
  | home
  | endKey
  | delete
  | pageUp
  | pageDown
  | insert
  | function (n : Nat)
  deriving DecidableEq, BEq

/-- A key pressed, with or without Control. -/
structure KeyPress where
  code : KeyCode
  control : Bool
  deriving DecidableEq, BEq

/-- The width a column is shown at when none is stored. -/
def defaultColumnWidth : Nat := 160

/-- The state of the interactive application. -/
structure App where
  doc : Document
  folder : Option Folder
  autoBackup : AutoBackup
  mode : InputMode
  input : String
  help : Bool
  toast : Option String
  quit : Bool
  supply : KeySupply

namespace App

/-- The application on a document: the input line closed and empty, no help, no message. -/
def start (doc : Document) (folder : Option Folder) (supply : KeySupply) : App :=
  { doc, folder, supply
    autoBackup := AutoBackup.default
    mode := .normal
    input := ""
    help := false
    toast := none
    quit := false }

/-- Shows a message. -/
def say (a : App) (message : String) : App := { a with toast := some message }

/-- Draws fresh keys for a new thing from the application's supply. -/
def fresh {α : Type} (a : App) (x : Fresh α) : α × App :=
  let (v, s) := x.run a.supply
  (v, { a with supply := s })

/-- Opens the input line in a mode with a first text. -/
def openInput (a : App) (mode : InputMode) (text : String) : App :=
  { a with mode, input := text }

/-- The separator character of the document's settings. -/
def separator (a : App) : Char := a.doc.settings.separator.char

end App

end Tabula
