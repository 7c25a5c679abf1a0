import Tabula.Screen.Reflow
import Tabula.Layout.Split
/-! # Widgets

    The pieces a screen is drawn with, each writing into a rectangle of a grid.

    * a frame draws a border of box-drawing characters around its rectangle and a title
      on its top edge after the corner;
    * a line of spans is written left to right, each span within the columns left;
    * a list shows items of one or more lines from the top, scrolled just far enough that
      the selected item is in view;
    * a table lays its columns out by width constraints with one blank column between
      them, shows a header row and then rows, scrolled like a list;
    * clearing blanks every cell of a rectangle. -/

namespace Tabula

namespace Grid

/-- Writes a line of spans from the left of an area; each span gets at most the columns
    that are left, and writing stops once the area is full. -/
def writeLine (g : Grid) (area : Rect) (l : Line) : Grid :=
  let area := area.intersection g.area
  let rec go (g : Grid) (x : Nat) : List String → Grid
    | [] => g
    | s :: rest =>
      let w := Text.textColumns s
      let g := g.writeSpan x area.y (min w (area.right - x)) s
      if x + w ≥ area.right then g else go g (x + w) rest
  go g area.x l

/-- Writes the lines of a text, one per row of an area. -/
def writeText (g : Grid) (area : Rect) (lines : List Line) : Grid :=
  let area := area.intersection g.area
  (lines.take area.height).zipIdx.foldl (fun g (l, dy) =>
    g.writeLine ⟨area.x, area.y + dy, area.width, 1⟩ l) g

/-- Draws a border around an area, and a title on its top edge. -/
def frame (g : Grid) (area : Rect) (title : Option Line) : Grid :=
  if area.isEmpty then g
  else
    let left := area.x
    let right := area.right - 1
    let top := area.y
    let bottom := area.bottom - 1
    let g := (List.range area.height).foldl (fun g dy => g.set left (top + dy) "│") g
    let g := (List.range area.width).foldl (fun g dx => g.set (left + dx) top "─") g
    let g := (List.range area.height).foldl (fun g dy => g.set right (top + dy) "│") g
    let g := (List.range area.width).foldl (fun g dx => g.set (left + dx) bottom "─") g
    let g := g.set right bottom "┘"
    let g := g.set right top "┐"
    let g := g.set left bottom "└"
    let g := g.set left top "┌"
    match title with
    | none => g
    | some t =>
      let room : Rect := ⟨area.x + 1, area.y, area.width - 2, 1⟩
      if room.isEmpty then g
      else g.writeLine { room with width := min t.width room.width } t

/-- The first and one past the last item shown when items of the given heights fill an
    area of `height` rows from the top, scrolled down just far enough to show the item
    `target` (the last one when it is past the end). -/
def visibleItems (heights : List Nat) (target : Nat) (height : Nat) : Nat × Nat :=
  let n := heights.length
  let h := fun i => heights.getD i 0
  -- from the top, as many items as fit
  let last := (heights.foldl (fun (acc : Nat × Nat × Bool) hi =>
    let (used, count, stopped) := acc
    if stopped || used + hi > height then (used, count, true) else (used + hi, count + 1, false))
    (0, 0, false)).2.1
  let s := min target (n - 1)
  -- drops items from the top while the shown ones are too tall
  let rec shed (fuel first used : Nat) : Nat × Nat :=
    match fuel with
    | 0 => (first, used)
    | fuel + 1 => if used > height then shed fuel (first + 1) (used - h first) else (first, used)
  -- brings items in below until the target is shown
  let rec down (fuel first last used : Nat) : Nat × Nat :=
    match fuel with
    | 0 => (first, last)
    | fuel + 1 =>
      if s < last then (first, last)
      else
        let (first, used) := shed (n + 1) first (used + h last)
        down fuel first (last + 1) used
  down (n + 1) 0 last ((heights.take last).foldl (· + ·) 0)

/-- Draws a list: items of lines from the top of the area, scrolled to the selected
    one. -/
def list (g : Grid) (area : Rect) (items : List (List Line)) (selected : Option Nat) : Grid :=
  if area.isEmpty || items.isEmpty then g
  else
    let heights := items.map List.length
    let (first, last) := visibleItems heights (selected.getD 0) area.height
    ((items.drop first).take (last - first)).foldl (fun (acc : Grid × Nat) item =>
      let (g, y) := acc
      (g.writeText ⟨area.x, y, area.width, item.length⟩ item, y + item.length))
      (g, area.y) |>.1

/-- The places of a table's columns in a width: `(offset, width)` of each. -/
def columnPlaces (width : Nat) (widths : List Constraint) : List (Nat × Nat) :=
  match (Rect.split ⟨0, 0, width, 1⟩ .horizontal 0 [.length 0, .fill 0]).getLast? with
  | none => []
  | some area => (area.split .horizontal 1 widths).map fun r => (r.x, r.width)

/-- Draws a table: the header in the first row, then the rows from the second, scrolled
    to the selected one; each cell is a text in its column. -/
def table (g : Grid) (area : Rect) (widths : List Constraint) (header : List String)
    (rows : List (List String)) (selected : Option Nat) : Grid :=
  if area.isEmpty then g
  else
    let places := columnPlaces area.width widths
    let parts := area.split .vertical 0
      [.length 0, .length 1, .length 0, .min 0, .length 0, .length 0, .length 0]
    let headerArea := parts.getD 1 area
    let rowsArea := parts.getD 3 area
    let cellText := fun (text : String) => (textLines text).map fun l => ([l] : Line)
    let writeRow := fun (g : Grid) (r : Rect) (cells : List String) =>
      (places.zip cells).foldl (fun g ((x, w), c) =>
        g.writeText ⟨r.x + x, r.y, w, r.height⟩ (cellText c)) g
    let g := writeRow g headerArea header
    if rows.isEmpty then g
    else
      let (first, last) := visibleItems (rows.map fun _ => 1) (selected.getD 0) rowsArea.height
      ((rows.drop first).take (last - first)).zipIdx.foldl (fun g (cells, i) =>
        writeRow g ⟨rowsArea.x, rowsArea.y + i, rowsArea.width, 1⟩ cells) g

end Grid

end Tabula
