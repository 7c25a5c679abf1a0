import Tabula.Json.Shape
import Tabula.Json.Print
import Tabula.Model.Document
import Tabula.Store.Error
/-! # The snapshot format

    A folder keeps its document in one JSON file.  Every member may be left out and takes
    its default then; members the format does not know are passed over.

    * `snapshotShape` is the form the file must have;
    * `Document.ofSnapshot` builds a document from a value of that form: every id must be
      a key, an unknown column type is text, widths become whole numbers of at least
      `minColumnWidth`, a cursor position of zero is unset, and the navigation is repaired
      at the end;
    * `Document.toSnapshot` writes the document back; `Document.encode` gives the file's
      text, `decodeSnapshot` reads it. -/

namespace Tabula

open Json

/-- A row: `id`, then its `values` by column id. -/
def rowShape : Shape := .record [("id", .string, true), ("values", .map .any, false)]

/-- A column: `id`, `name`, `type`, `options` and display `order`. -/
def columnShape : Shape :=
  .record [("id", .string, true), ("name", .string, false), ("type", .string, false),
    ("options", .array .string, false), ("order", .signed, false)]

/-- The widths of a table's columns, by column id. -/
def metaShape : Shape := .record [("columnWidths", .map .double, false)]

/-- A table: `id`, `name`, `columns`, `rows` and its `meta` data. -/
def tableShape : Shape :=
  .record [("id", .string, true), ("name", .string, false),
    ("columns", .array columnShape, false), ("rows", .array rowShape, false),
    ("meta", .nullable metaShape, false)]

/-- A workspace: `id`, `name` and `tables`. -/
def workspaceShape : Shape :=
  .record [("id", .string, true), ("name", .string, false), ("tables", .array tableShape, false)]

/-- The cursor: row and column positions. -/
def cursorShape : Shape :=
  .record [("row", .nullable .unsigned, false), ("col", .nullable .unsigned, false)]

/-- The settings: whether the sidebar is open, and the command separator. -/
def settingsShape : Shape :=
  .record [("isSidebarOpen", .boolean, false), ("commandSeparator", .string, false)]

/-- The whole snapshot file. -/
def snapshotShape : Shape :=
  .record [("dbs", .array workspaceShape, false), ("currentDBId", .nullable .string, false),
    ("currentTableId", .nullable .string, false), ("view", .string, false),
    ("kanbanGroupByColumnId", .nullable .string, false), ("cursor", cursorShape, false),
    ("settings", settingsShape, false)]

namespace Snapshot

/-- A string member, `""` when absent. -/
def text (v : Value) (name : String) : String :=
  ((v.get? name).bind Value.asString?).getD ""

/-- An array member, empty when absent. -/
def items (v : Value) (name : String) : List Value :=
  ((v.get? name).bind Value.asArray?).getD []

/-- An object member's entries, empty when absent or `null`. -/
def entries (v : Value) (name : String) : List (String × Value) :=
  ((v.get? name).bind Value.asObject?).getD []

/-- A key read from a member of the file, or the error naming the member. -/
def key (field : String) (s : String) : Except StoreError Key :=
  match Key.parse s with
  | .ok k => .ok k
  | .error e => .error (.invalidId field s e)

/-- An optional key: absent, `null` and `""` are none. -/
def optionalKey (field : String) (v : Value) : Except StoreError (Option Key) :=
  match (v.get? field).bind Value.asString? with
  | none => .ok none
  | some "" => .ok none
  | some s => (key field s).map some

/-- A stored width: negative as zero, rounded half away from zero, at most `2^32 - 1`,
    and at least `minColumnWidth`. -/
def width (x : Float) : Nat :=
  max (if x > 0 then x else 0).round.toUInt32.toNat minColumnWidth

/-- The stored width of a width member.  A whole number is taken exactly: its double is
    the same number, or lies past `2^32 - 1` where the width saturates anyway. -/
def widthOf (v : Value) : Nat :=
  match v with
  | .num (.int i) => max (min i.toNat 4294967295) minColumnWidth
  | .num (.float x) => width x
  | _ => minColumnWidth

/-- A cursor position: zero and absence are unset. -/
def position (v : Value) (name : String) : Option Nat :=
  match (v.get? name).bind Value.asInt? with
  | some n => if n > 0 then some n.toNat else none
  | none => none

/-- Collects the results of a list of steps, stopping at the first error. -/
def collect {α β : Type} (f : α → Except StoreError β) : List α → Except StoreError (List β)
  | [] => .ok []
  | x :: xs => do
    let y ← f x
    let ys ← collect f xs
    pure (y :: ys)

/-- A column of the file. -/
def column (v : Value) : Except StoreError Column := do
  let k ← key "columns[].id" (text v "id")
  let kind := match ColumnKind.parse (text v "type") with
    | .ok kind => kind
    | .error _ => .text
  let options := (items v "options").filterMap Value.asString?
  let order := ((v.get? "order").bind Value.asInt?).getD 0
  pure ⟨k, text v "name", kind, options, order⟩

/-- A row of the file; a `null` value leaves its cell empty. -/
def row (v : Value) : Except StoreError Row := do
  let k ← key "rows[].id" (text v "id")
  let cells ← collect (fun (c, x) => (key "rows[].values" c).map fun ck => (ck, x))
    (entries v "values")
  pure (cells.foldl (fun r (ck, x) => r.set ck x) (Row.empty k))

/-- A table of the file. -/
def table (v : Value) : Except StoreError Table := do
  let k ← key "tables[].id" (text v "id")
  let columns ← collect column (items v "columns")
  let rows ← collect row (items v "rows")
  let widthEntries := match v.get? "meta" with
    | some m => entries m "columnWidths"
    | none => []
  let widths ← collect (fun (c, x) => (key "meta.columnWidths" c).map fun ck => (ck, widthOf x))
    widthEntries
  pure ⟨k, text v "name", columns, rows, KeyMap.ofList widths⟩

/-- A workspace of the file. -/
def workspace (v : Value) : Except StoreError Workspace := do
  let k ← key "dbs[].id" (text v "id")
  let tables ← collect table (items v "tables")
  pure ⟨k, text v "name", tables⟩

end Snapshot

open Snapshot in
/-- The document a snapshot value of `snapshotShape` holds. -/
def Document.ofSnapshot (v : Value) : Except StoreError Document := do
  let workspaces ← collect workspace (items v "dbs")
  let ws ← optionalKey "currentDBId" v
  let t ← optionalKey "currentTableId" v
  let cursorValue := (v.get? "cursor").getD (.obj [])
  let cursor : Cursor := ⟨position cursorValue "row", position cursorValue "col"⟩
  let view := (View.keyword? (text v "view")).getD .table
  let groupBy ← optionalKey "kanbanGroupByColumnId" v
  let settingsValue := (v.get? "settings").getD (.obj [])
  let sidebar := ((settingsValue.get? "isSidebarOpen").bind Value.asBool?).getD true
  let separator := ((text settingsValue "commandSeparator").toList.head?.bind
    Separator.ofChar?).getD .slash
  let nav : Navigation := { ((({} : Navigation).selectWorkspace ws).selectTable t) with
    cursor := cursor, view := view, groupBy := groupBy }
  pure (Document.repair ⟨workspaces, nav, ⟨sidebar, separator⟩⟩)

/-- Reads a snapshot text; `path` names the file in messages. -/
def decodeSnapshot (path text : String) : Except StoreError Document :=
  match snapshotShape.parse text with
  | .error e =>
    let (line, column) := e.place text
    .error (.json path e.fault line column)
  | .ok v => Document.ofSnapshot v

/-- A key as a string value. -/
def Key.toValue (k : Key) : Value := .str k.text

/-- A whole number as a value. -/
def natValue (n : Nat) : Value := .num (.int n)

/-- A column as the file writes it; options only when there are some. -/
def Column.toSnapshot (c : Column) : Value :=
  .obj ([("id", c.key.toValue), ("name", .str c.name), ("type", .str c.kind.name)]
    ++ (if c.options.isEmpty then [] else [("options", .arr (c.options.map .str))])
    ++ [("order", .num (.int c.order))])

/-- A row as the file writes it. -/
def Row.toSnapshot (r : Row) : Value :=
  .obj [("id", r.key.toValue), ("values", .obj (r.cells.map fun (k, v) => (k.text, v)))]

/-- A table as the file writes it; widths only when there are some. -/
def Table.toSnapshot (t : Table) : Value :=
  .obj ([("id", t.key.toValue), ("name", .str t.name),
      ("columns", .arr (t.columns.map Column.toSnapshot)),
      ("rows", .arr (t.rows.map Row.toSnapshot))]
    ++ (if t.widths.isEmpty then []
      else [("meta", .obj [("columnWidths",
        .obj (t.widths.map fun (k, w) => (k.text, natValue w)))])]))

/-- A workspace as the file writes it. -/
def Workspace.toSnapshot (w : Workspace) : Value :=
  .obj [("id", w.key.toValue), ("name", .str w.name),
    ("tables", .arr (w.tables.map Table.toSnapshot))]

/-- The document as the file writes it, members in the file's order; unset pointers are
    left out. -/
def Document.toSnapshot (d : Document) : Value :=
  let n := d.nav
  let opt := fun (name : String) (k : Option Key) =>
    match k with
    | some k => [(name, k.toValue)]
    | none => []
  let pos := fun (p : Option Nat) => match p with
    | some p => natValue p
    | none => Value.null
  .obj ([("dbs", .arr (d.workspaces.map Workspace.toSnapshot))]
    ++ opt "currentDBId" n.workspace ++ opt "currentTableId" n.table
    ++ [("view", .str n.view.name)]
    ++ opt "kanbanGroupByColumnId" n.groupBy
    ++ [("cursor", .obj [("row", pos n.cursor.row), ("col", pos n.cursor.col)]),
      ("settings", .obj [("isSidebarOpen", .bool d.settings.sidebarOpen),
        ("commandSeparator", .str d.settings.separator.char.toString)])])

/-- The text of the snapshot file: the pretty JSON and a line break. -/
def Document.encode (d : Document) : String :=
  d.toSnapshot.pretty ++ "\n"

end Tabula
