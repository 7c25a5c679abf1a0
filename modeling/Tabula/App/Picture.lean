import Tabula.App.State
import Tabula.Screen.Widgets
import Tabula.Query.Kanban
import Tabula.Query.Location
/-! # The picture of the application

    What the screen shows, top to bottom: the path bar (breadcrumbs on the left, the
    place label on the right), the body, the input line and the footer (the keys of the
    moment and the last message on the left, the program's name on the right).

    * the body holds the sidebar of workspaces and their tables on the left when it is
      open, and the current table beside it: as a grid of cells, or as a board with one
      lane per value of the grouping column; with no table, a hint;
    * a column of the grid is one cell wide for every eight pixels of its stored width,
      between ten and forty-eight;
    * with help shown, a box of the key bindings covers the middle of the body;
    * the terminal cursor stands after the typed text while the input line is open, never
      past the last column. -/

namespace Tabula

namespace Picture

/-- The width of the sidebar. -/
def sidebarWidth : Nat := 28

/-- The prompt of the command line. -/
def commandPrompt : String := "› "

/-- The prompt of a cell edit. -/
def editPrompt : String := "edit › "

/-- The program's name, at the right of the footer. -/
def brand : String := "tablane "

/-- The columns of the grid a stored pixel width takes. -/
def columnCells (px : Option Nat) : Nat :=
  min (max (px.getD defaultColumnWidth / 8) 10) 48

/-- The title of a table's frame: its name, the view, and the grouping column if it is
    not blank. -/
def viewTitle (label : String) (view : View) (tail : Option String) : String :=
  let title := " " ++ label ++ " [" ++ view.name ++ "]"
  let title := match tail.map Text.trim with
    | some t => if t.isEmpty then title else title ++ " by " ++ t
    | none => title
  title ++ " "

/-- The breadcrumbs, joined by arrows. -/
def pathBar (d : Document) : Line :=
  (d.crumbs.map (·.label)).intersperse " › "

/-- An item of a list for a text: one line for each of its lines. -/
def textItem (s : String) : List Line := (textLines s).map fun l => [l]

/-- The sidebar's items, each workspace followed by its tables, and which is selected:
    the current table, or the current workspace when no table is. -/
def sidebarItems (d : Document) : List (List Line) × Option Nat :=
  d.workspaces.foldl (fun (acc : List (List Line) × Option Nat) w =>
    let current := d.nav.workspace == some w.key
    let (items, sel) := acc
    let sel := if current && d.nav.table.isNone then some items.length else sel
    let items := items ++ [[[w.name]]]
    w.tables.foldl (fun (acc : List (List Line) × Option Nat) t =>
      let (items, sel) := acc
      let sel := if current && d.nav.table == some t.key then some items.length else sel
      (items ++ [textItem ("  " ++ t.name)], sel)) (items, sel)) ([], none)

/-- The lines of the hint shown when no table is selected. -/
def hintLines : List Line :=
  [["No table selected."], [""], ["Tab cycles tables, : opens the command line, ? shows help."]]

/-- The input line: a hint while it is closed, else the prompt and the typed text. -/
def commandLine (a : App) : Line :=
  match a.mode with
  | .normal =>
    let s := toString a.separator
    ["press : or " ++ s ++ " for a command, e.g. " ++ s ++ "s Work:Tasks:2:1"]
  | .command => [commandPrompt, a.input]
  | .editCell .. => [editPrompt, a.input]

/-- The characters of the prompt of an input mode. -/
def promptWidth : InputMode → Nat
  | .normal => 0
  | .command => commandPrompt.length
  | .editCell .. => editPrompt.length

/-- The keys of the moment, by label. -/
def footerEntries (a : App) : List (String × String) :=
  match a.mode with
  | .normal =>
    [("Move", "hjkl"), ("Table", "Tab"), ("View", "v"), ("Edit", "e"), ("Row", "n/x"),
     ("Sidebar", if a.doc.settings.sidebarOpen then "^b◼" else "^b◻"), ("Help", "?"),
     ("Quit", "q")]
  | _ => [("Apply", "Enter"), ("Cancel", "Esc")]

/-- The footer: the keys of the moment, and the last message after a bar. -/
def footerLine (a : App) : Line :=
  let entries := (footerEntries a).foldl (fun (spans : Line) (label, key) =>
    (if spans.isEmpty then spans else spans ++ [" | "]) ++ [label ++ ":", key]) []
  match a.toast with
  | some message => entries ++ [" | " ++ message]
  | none => entries

/-- The key bindings of the help, in groups under a header. -/
def helpBindings : List (String × List (String × String)) :=
  [ ("--- Navigation ---",
      [("h/j/k/l, arrows", "Move the cell cursor"),
       ("Tab/Shift-Tab", "Next/previous table"),
       ("Backspace", "Up one level"),
       ("Home", "Go home (clear every pointer)"),
       ("v", "Toggle table/kanban view"),
       ("g", "Cycle kanban group-by column")]),
    ("--- Editing ---",
      [("e, Enter", "Edit the cell under the cursor"),
       ("n/x", "Add row / remove cursor row"),
       ("c", "Add a text column"),
       ("</>", "Move cursor column left/right"),
       ("-/+", "Narrow/widen cursor column"),
       ("N/W", "Add table / add workspace"),
       ("B", "Create a backup now")]),
    ("--- Global ---",
      [(":, Ctrl-K", "Open the command line"),
       ("Ctrl-B", "Toggle sidebar"),
       ("?", "Help (toggle)"),
       ("q, Ctrl-C", "Quit")]) ]

/-- The lines of the help: each binding's keys right-aligned in one column, then its
    meaning; then the two commands of the command line. -/
def helpLines (sep : Char) : List Line :=
  let select := toString sep ++ "s <path>"
  let view := toString sep ++ "v [<path>] table|kanban [by:<col>]"
  let keys := (helpBindings.flatMap (·.2)).map (·.1) ++ [select, view]
  let width := (keys.map String.length).foldl max 0
  let entry := fun (key desc : String) =>
    [String.ofList (List.replicate (width - key.length) ' ') ++ key, "  ", desc]
  (helpBindings.flatMap fun (header, entries) =>
    [[header]] ++ entries.map (fun (k, d) => entry k d) ++ [[""]])
  ++ [["--- Commands ---"],
      entry select "Select ws:table:row:col, :row:col, :_:col, ::",
      entry view "Switch view, optionally navigating first"]

/-- The middle of an area: the given percentages of its height and width. -/
def centeredRect (widthPercent heightPercent : Nat) (area : Rect) : Rect :=
  let vm := (100 - heightPercent) / 2
  let hm := (100 - widthPercent) / 2
  let middle := (area.split .vertical 0
    [.percentage vm, .percentage heightPercent, .percentage vm]).getD 1 area
  (middle.split .horizontal 0
    [.percentage hm, .percentage widthPercent, .percentage hm]).getD 1 middle

end Picture

namespace Grid

open Picture

/-- Draws the sidebar. -/
def sidebar (g : Grid) (area : Rect) (d : Document) : Grid :=
  let (items, selected) := sidebarItems d
  (g.frame area (some [" Workspaces "])).list area.inner items selected

/-- Draws a table as a grid of cells under a header of column names. -/
def cellGrid (g : Grid) (area : Rect) (d : Document) (t : Table) : Grid :=
  let columns := t.ordered
  let header := "#" :: columns.map (·.name)
  let rows := t.rows.zipIdx.map fun (r, i) =>
    toString (i + 1) :: columns.map fun c => cellText (r.get? c.key)
  let widths := Constraint.length 4 :: columns.map fun c => .length (columnCells (t.width? c.key))
  let g := g.frame area (some [viewTitle t.name .table none])
  g.table area.inner widths header rows (d.nav.cursor.row.map (· - 1))

/-- Draws a table as a board: one framed lane per group, side by side, each listing the
    cards of its rows. -/
def board (g : Grid) (area : Rect) (d : Document) (t : Table) : Grid :=
  let groupBy := d.nav.groupBy
  let groupName := (groupBy.bind t.column?).map (·.name)
  let cursorRow := (d.nav.cursor.row.bind fun r => t.rows[r - 1]?).map (·.key)
  let g := g.frame area (some [viewTitle t.name .kanban groupName])
  let lanes := t.lanes groupBy
  let count := max lanes.length 1
  let areas := area.inner.split .horizontal 0 (lanes.map fun _ => .ratio 1 count)
  (lanes.zip areas).foldl (fun g (lane, laneArea) =>
    let selected := lane.rows.findIdx? (some · == cursorRow)
    let items := lane.rows.filterMap fun k => (t.row? k).map fun r => textItem (t.cardTitle r)
    let title := " " ++ lane.title ++ " (" ++ toString lane.rows.length ++ ") "
    (g.frame laneArea (some [title])).list laneArea.inner items selected) g

/-- Draws the current table in its view, or the hint when there is none. -/
def mainView (g : Grid) (area : Rect) (d : Document) : Grid :=
  match d.currentTable with
  | none => (g.frame area none).writeParagraph area.inner .center false hintLines
  | some t =>
    match d.nav.view with
    | .table => g.cellGrid area d t
    | .kanban => g.board area d t

/-- Draws the help box over the middle of an area. -/
def helpBox (g : Grid) (area : Rect) (sep : Char) : Grid :=
  let box := centeredRect 80 80 area
  let g := (g.clear box).frame box (some [" Help "])
  g.writeParagraph box.inner .left true (helpLines sep)

end Grid

/-- The screen of the application at a size, and where the terminal cursor stands. -/
def App.picture (a : App) (width height : Nat) : Grid × Option (Nat × Nat) :=
  let g := Grid.blank width height
  let screen := g.area
  let parts := screen.split .vertical 0 [.length 1, .min 0, .length 1, .length 1]
  let pathArea := parts.getD 0 screen
  let body := parts.getD 1 screen
  let inputArea := parts.getD 2 screen
  let footer := parts.getD 3 screen
  let g := g.writeParagraph pathArea .left false [Picture.pathBar a.doc]
  let g := g.writeParagraph pathArea .right false [[a.doc.pathLabel]]
  let (g, mainArea) := if a.doc.settings.sidebarOpen then
      let panes := body.split .horizontal 0 [.length Picture.sidebarWidth, .min 0]
      (g.sidebar (panes.getD 0 body) a.doc, panes.getD 1 body)
    else (g, body)
  let g := g.mainView mainArea a.doc
  let g := g.writeParagraph inputArea .left false [Picture.commandLine a]
  let cursor := if a.mode == .normal then none
    else
      let offset := min (Picture.promptWidth a.mode + a.input.length) 65535
      some (min (inputArea.x + offset) (inputArea.x + (inputArea.width - 1)), inputArea.y)
  let g := g.writeParagraph footer .left false [Picture.footerLine a]
  let g := g.writeParagraph footer .right false [[Picture.brand]]
  let g := if a.help then g.helpBox body a.separator else g
  (g, cursor)

end Tabula
