import Tabula.Model.Table
import Tabula.Json.Print
import Tabula.Text.Blank
/-! # Kanban lanes

    A kanban view sorts the rows of a table into lanes by the text of one column.  The
    lanes of a select column's options come first, in option order, empty options left
    out; then a lane for each other text in the order rows show it; and last the lane
    `(No value)` for rows whose text is blank, present when it holds a row or when there is
    no other lane.  A row goes to the first lane whose title equals its text.  Without a
    grouping column of the table, every row is in the one no-value lane.

    The text of a cell is empty for an empty cell or `null`, the string itself for a
    string, and the compact JSON text of any other value.

    * `cellText` is the text of a cell;
    * `Table.lanes` sorts the rows;
    * `Table.cardTitle` is the text a row shows on a card. -/

namespace Tabula

/-- The title of the lane of rows with no value. -/
def noValueTitle : String := "(No value)"

/-- A lane: its title, its rows in table order, and whether it is the no-value lane. -/
structure Lane where
  title : String
  rows : List Key
  noValue : Bool

/-- The text of a cell. -/
def cellText : Option Json.Value → String
  | none => ""
  | some .null => ""
  | some (.str s) => s
  | some v => v.compact

/-- Adds a row to the first lane of a title, or opens a lane for it at the end. -/
def addToLane (title : String) (row : Key) : List Lane → List Lane
  | [] => [⟨title, [row], false⟩]
  | l :: rest =>
    if l.title == title then { l with rows := l.rows ++ [row] } :: rest
    else l :: addToLane title row rest

namespace Table

/-- The lanes of a table grouped by a column. -/
def lanes (t : Table) (groupBy : Option Key) : List Lane :=
  match groupBy.bind t.column? with
  | none => [⟨noValueTitle, t.rows.map (·.key), true⟩]
  | some c =>
    let start : List Lane := if c.kind == .select then
        (c.options.filter (!·.isEmpty)).map fun o => ⟨o, [], false⟩
      else []
    let (lanes, blank) := t.rows.foldl (fun (acc : List Lane × List Key) r =>
        let text := cellText (r.get? c.key)
        if Text.isBlankText text then (acc.1, acc.2 ++ [r.key])
        else (addToLane text r.key acc.1, acc.2)) (start, [])
    if lanes.isEmpty || !blank.isEmpty then lanes ++ [⟨noValueTitle, blank, true⟩] else lanes

/-- The text of a row's card: its value in the first column of the display sequence, or
    `Row <key>` when that cell is empty. -/
def cardTitle (t : Table) (r : Row) : String :=
  match t.ordered.head?.bind fun c => r.get? c.key with
  | none => "Row " ++ r.key.text
  | some .null => "Row " ++ r.key.text
  | some v => cellText (some v)

end Table

end Tabula
