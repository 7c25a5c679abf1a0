import Tabula.Screen.Grid
import Tabula.Text.Blank
/-! # Lines into rows

    A paragraph's lines become the rows of its area in one of two ways.

    * Truncated: a line keeps its clusters while they fit the width; a cluster wider than
      the whole width is passed over.
    * Wrapped at words: clusters gather into words and the runs of blanks before them.  A
      word joins the row when a blank follows it, or when the row is empty and the run and
      the word would no longer fit it, so that a word longer than a row is broken.  A row
      is closed when it is full, or when the blanks and word pending would fill it; the
      blanks that fit in what was left of the closed row are dropped, and a blank that
      finds none left to drop falls away too.  Blanks at the start of a line are kept.

    A blank cluster is one made of white space only, other than the no-break space. -/

namespace Tabula

/-- A line of text: its spans, written one after another. -/
abbrev Line := List String

/-- Where a line sits in its row. -/
inductive Alignment where
  | left
  | center
  | right
  deriving DecidableEq, BEq

/-- The clusters of a line, line breaks left out. -/
def Line.clusters (l : Line) : List String :=
  l.flatMap fun s => (Text.graphemes s).filter (· != "\n")

/-- The columns a line takes. -/
def Line.width (l : Line) : Nat := (l.map Text.textColumns).foldl (· + ·) 0

/-- The lines of a text: split at line feeds, a carriage return just before one dropped,
    no line after a final line feed; the empty text is one empty line. -/
def textLines (s : String) : List String :=
  if s.isEmpty then [""]
  else
    let parts := s.splitOn "\n"
    let ended := parts.dropLast.map fun p =>
      if p.endsWith "\r" then String.ofList p.toList.dropLast else p
    match parts.getLast? with
    | some "" => ended
    | some last => ended ++ [last]
    | none => ended

/-- The columns a list of clusters takes. -/
def clustersWidth (cs : List String) : Nat := (cs.map Grid.clusterWidth).foldl (· + ·) 0

/-- The clusters of a line that fit a width, left to right, after `used` columns: a
    cluster wider than the whole width is passed over, and the first that does not fit
    ends the row. -/
def truncateClusters (width used : Nat) : List String → List String
  | [] => []
  | c :: rest =>
    let w := Grid.clusterWidth c
    if w > width then truncateClusters width used rest
    else if used + w > width then []
    else c :: truncateClusters width (used + w) rest

/-- Whether a cluster is blank for wrapping. -/
def isBlankCluster (c : String) : Bool :=
  c.all Text.isBlank && c != "\u00a0"

/-- What the word wrapper holds while it reads a line. -/
structure WrapState where
  rows : List (List String) := []
  row : List String := []
  rowWidth : Nat := 0
  word : List String := []
  wordWidth : Nat := 0
  blanks : List String := []
  blanksWidth : Nat := 0
  afterWord : Bool := false

/-- Drops the blanks at the front of a run that fit, one after another, in the columns
    left of a closed row; gives the blanks left and their width. -/
def dropBlanks (remaining : Nat) : List String → Nat → List String × Nat
  | [], w => ([], w)
  | b :: rest, w =>
    let bw := Grid.clusterWidth b
    if bw > remaining then (b :: rest, w)
    else dropBlanks (remaining - bw) rest (w - bw)

/-- Moves the pending blanks and word onto the row. -/
def WrapState.settle (s : WrapState) : WrapState :=
  { s with
    row := s.row ++ s.blanks ++ s.word
    rowWidth := s.rowWidth + s.blanksWidth + s.wordWidth
    blanks := []
    blanksWidth := 0
    word := []
    wordWidth := 0 }

/-- Reads one cluster into the wrapper. -/
def WrapState.step (width : Nat) (s : WrapState) (c : String) : WrapState :=
  let w := Grid.clusterWidth c
  let blank := isBlankCluster c
  if w > width then s
  else
    -- a word ends, or an empty row could not take what is pending with this cluster
    let settles := (s.afterWord && blank) ||
      (s.row.isEmpty && s.wordWidth + s.blanksWidth + w > width)
    let s := if settles then s.settle else s
    let full := s.rowWidth ≥ width || (w > 0 && s.rowWidth + s.blanksWidth + s.wordWidth ≥ width)
    let (s, skip) := if full then
        let (blanks, bw) := dropBlanks (width - s.rowWidth) s.blanks s.blanksWidth
        ({ s with
            rows := s.rows ++ [s.row]
            row := []
            rowWidth := 0
            blanks := blanks
            blanksWidth := bw }, blank && blanks.isEmpty)
      else (s, false)
    if skip then s
    else
      let s := if blank then { s with blanks := s.blanks ++ [c], blanksWidth := s.blanksWidth + w }
        else { s with word := s.word ++ [c], wordWidth := s.wordWidth + w }
      { s with afterWord := !blank }

/-- The rows of one line wrapped at words to a width. -/
def wrapClusters (width : Nat) (cs : List String) : List (List String) :=
  let s := cs.foldl (WrapState.step width) {}
  let (rows, row) := if s.word.isEmpty && s.blanks.isEmpty then (s.rows, s.row)
    else if s.row.isEmpty && s.word.isEmpty then (s.rows ++ [[]], s.row)
    else (s.rows, s.row ++ s.blanks ++ s.word)
  let rows := if row.isEmpty then rows else rows ++ [row]
  if rows.isEmpty then [[]] else rows

/-- Where a row of a width starts in an area of a width. -/
def alignOffset (align : Alignment) (rowWidth areaWidth : Nat) : Nat :=
  match align with
  | .left => 0
  | .center => areaWidth / 2 - rowWidth / 2
  | .right => areaWidth - rowWidth

/-- Writes rows of clusters into an area, each aligned; clusters of no width are passed
    over and nothing clears the cells a wide one hides. -/
def Grid.writeRows (g : Grid) (area : Rect) (align : Alignment) (rows : List (List String)) : Grid :=
  ((rows.take area.height).zipIdx.foldl (fun g (row, dy) =>
    let x0 := area.x + alignOffset align (clustersWidth row) area.width
    (row.foldl (fun (acc : Grid × Nat) c =>
      let w := Grid.clusterWidth c
      if w == 0 then acc else (acc.1.set acc.2 (area.y + dy) c, acc.2 + w)) (g, x0)).1) g)

/-- Writes lines into an area, truncated or wrapped at words. -/
def Grid.writeParagraph (g : Grid) (area : Rect) (align : Alignment) (wrap : Bool)
    (lines : List Line) : Grid :=
  if area.isEmpty then g
  else
    let rows := if wrap then lines.flatMap fun l => wrapClusters area.width l.clusters
      else lines.map fun l => truncateClusters area.width 0 l.clusters
    g.writeRows area align rows

end Tabula
