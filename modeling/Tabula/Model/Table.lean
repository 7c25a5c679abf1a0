import Tabula.Model.Key
import Tabula.Json.Value
/-! # Tables

    A table has a name, columns in the order they were stored, rows in the order they were
    stored, and the widths given to some of its columns.  Each column has a kind and a
    display order, a whole number; the display sequence of the columns sorts them by that
    number, columns with equal numbers keeping their storage order.  A row holds JSON
    values by column key; storing `null` empties the cell.

    * `ColumnKind.parse` reads a kind name, trimmed and in any ASCII case;
    * `Table.ordered` is the display sequence;
    * `Table.nextOrder` is one above the highest display order, in 64-bit arithmetic;
    * `Row.set` stores or empties a cell. -/

namespace Tabula

/-- What a column holds. -/
inductive ColumnKind where
  | text
  | number
  | checkbox
  | date
  | select
  deriving DecidableEq, BEq, Inhabited

/-- The name of a kind. -/
def ColumnKind.name : ColumnKind → String
  | .text => "text"
  | .number => "number"
  | .checkbox => "checkbox"
  | .date => "date"
  | .select => "select"

/-- A kind name that is none of the five, kept as given. -/
structure UnknownKind where
  raw : String

/-- The words for an unknown kind name. -/
def UnknownKind.message (e : UnknownKind) : String :=
  "unknown column kind '" ++ e.raw ++ "' (expected text|number|checkbox|date|select)"

/-- Reads a kind name: blanks around it are dropped and ASCII case does not matter. -/
def ColumnKind.parse (s : String) : Except UnknownKind ColumnKind :=
  match (Text.trim s).toLower with
  | "text" => .ok .text
  | "number" => .ok .number
  | "checkbox" => .ok .checkbox
  | "date" => .ok .date
  | "select" => .ok .select
  | _ => .error ⟨s⟩

/-- The least width a column may be given. -/
def minColumnWidth : Nat := 80

/-- A column: key, name, kind, the options of a select column and its display order. -/
structure Column where
  key : Key
  name : String
  kind : ColumnKind
  options : List String
  order : Int
  deriving BEq

/-- A row: its key and its cells by column key. -/
structure Row where
  key : Key
  cells : KeyMap Json.Value
  deriving BEq

/-- The empty row of a key. -/
def Row.empty (key : Key) : Row := ⟨key, []⟩

/-- The value of a cell. -/
def Row.get? (r : Row) (column : Key) : Option Json.Value := r.cells.get? column

/-- Stores a value in a cell; `null` empties it. -/
def Row.set (r : Row) (column : Key) (v : Json.Value) : Row :=
  match v with
  | .null => { r with cells := r.cells.erase column }
  | _ => { r with cells := r.cells.insert column v }

/-- A table: key, name, columns and rows in storage order, and column widths. -/
structure Table where
  key : Key
  name : String
  columns : List Column
  rows : List Row
  widths : KeyMap Nat
  deriving BEq

/-- The empty table of a key and name. -/
def Table.empty (key : Key) (name : String) : Table := ⟨key, name, [], [], []⟩

namespace Table

/-- The columns in display order: sorted by order, ties in storage order. -/
def ordered (t : Table) : List Column :=
  t.columns.mergeSort fun a b => a.order ≤ b.order

/-- The first column of a key. -/
def column? (t : Table) (k : Key) : Option Column := t.columns.find? (·.key == k)

/-- Whether a column of a key exists. -/
def hasColumn (t : Table) (k : Key) : Bool := t.columns.any (·.key == k)

/-- The first row of a key. -/
def row? (t : Table) (k : Key) : Option Row := t.rows.find? (·.key == k)

/-- Whether a row of a key exists. -/
def hasRow (t : Table) (k : Key) : Bool := t.rows.any (·.key == k)

/-- A whole number wrapped into the signed 64-bit range. -/
def wrap64 (x : Int) : Int := Int.bmod x (Nat.pow 2 64)

/-- One above the highest display order, `0` for a table without columns; the sum wraps
    around in 64-bit arithmetic. -/
def nextOrder (t : Table) : Int :=
  match t.columns.map (·.order) with
  | [] => 0
  | o :: os => wrap64 (os.foldl max o + 1)

/-- The width given to a column. -/
def width? (t : Table) (k : Key) : Option Nat := t.widths.get? k

end Table

end Tabula
