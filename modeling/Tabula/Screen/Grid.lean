import Tabula.Text.Graphemes
import Tabula.Text.Columns
/-! # Character grids

    A screen is a grid of cells, each showing one grapheme cluster.  A cluster two columns
    wide fills its cell and hides the one after it; when the grid is shown, a hidden cell
    shows as blank, whatever was written to it.

    * `Grid.writeSpan` writes a text from a cell, one cluster per cell (a wide one clears
      the cells it hides), and stops before the first cluster that would pass the
      allowed width;
    * `Grid.rows` gives the text of each row as shown. -/

namespace Tabula

/-- A rectangle of cells: its top left corner and its size. -/
structure Rect where
  x : Nat
  y : Nat
  width : Nat
  height : Nat
  deriving DecidableEq, BEq, Inhabited, Repr

namespace Rect

/-- The column after the rectangle. -/
def right (r : Rect) : Nat := r.x + r.width

/-- The row after the rectangle. -/
def bottom (r : Rect) : Nat := r.y + r.height

/-- Whether the rectangle has no cell. -/
def isEmpty (r : Rect) : Bool := r.width == 0 || r.height == 0

/-- The cells two rectangles share; where they do not meet, an empty rectangle at the
    corner of the overlap. -/
def intersection (a b : Rect) : Rect :=
  let x1 := max a.x b.x
  let y1 := max a.y b.y
  let x2 := min a.right b.right
  let y2 := min a.bottom b.bottom
  ⟨x1, y1, x2 - x1, y2 - y1⟩

/-- The rectangle inside a frame of one cell on every side. -/
def inner (r : Rect) : Rect :=
  let x := min (r.x + 1) r.right
  let y := min (r.y + 1) r.bottom
  ⟨x, y, r.width - 2, r.height - 2⟩

end Rect

/-- The cells of a screen, row by row. -/
structure Grid where
  area : Rect
  cells : Array String

namespace Grid

/-- A blank grid of a size. -/
def blank (width height : Nat) : Grid :=
  ⟨⟨0, 0, width, height⟩, Array.replicate (width * height) " "⟩

/-- Whether a cell lies in the grid. -/
def contains (g : Grid) (x y : Nat) : Bool :=
  g.area.x ≤ x && x < g.area.right && g.area.y ≤ y && y < g.area.bottom

/-- Shows a cluster in a cell; a cell outside the grid is left alone. -/
def set (g : Grid) (x y : Nat) (symbol : String) : Grid :=
  if g.contains x y then
    let i := (y - g.area.y) * g.area.width + (x - g.area.x)
    { g with cells := g.cells.setIfInBounds i symbol }
  else g

/-- Blanks a cell. -/
def reset (g : Grid) (x y : Nat) : Grid := g.set x y " "

/-- Blanks every cell of a rectangle. -/
def clear (g : Grid) (r : Rect) : Grid :=
  (List.range r.height).foldl (fun g dy =>
    (List.range r.width).foldl (fun g dx => g.reset (r.x + dx) (r.y + dy)) g) g

/-- The columns a cluster takes. -/
def clusterWidth (s : String) : Nat := Text.textColumns s

/-- Writes clusters from a cell along a row, each at the cell after the columns of the
    ones before; a cluster of no width is written in place and then covered by the next.
    Writing stops before a cluster that would reach past `limit`. -/
def writeClusters (g : Grid) (x y limit : Nat) : List String → Grid
  | [] => g
  | s :: rest =>
    let w := clusterWidth s
    if x + w > limit then g
    else
      let g := g.set x y s
      let g := (List.range (w - 1)).foldl (fun g i => g.reset (x + 1 + i) y) g
      writeClusters g (x + w) y limit rest

/-- Writes a text from a cell, within `width` columns and the grid; line breaks are not
    shown. -/
def writeSpan (g : Grid) (x y width : Nat) (text : String) : Grid :=
  let limit := min (x + width) g.area.right
  g.writeClusters x y limit ((Text.graphemes text).filter (· != "\n"))

/-- The text of each row as shown: a cell shows blank when the cell before it, in the
    order of the rows, holds a cluster wider than one column. -/
def rows (g : Grid) : List String :=
  let cells := g.cells.toList
  let shown := List.zipWith (fun before s => if clusterWidth before > 1 then " " else s)
    (" " :: cells) cells
  (List.range g.area.height).map fun r =>
    String.join ((shown.drop (r * g.area.width)).take g.area.width)

end Grid

end Tabula
