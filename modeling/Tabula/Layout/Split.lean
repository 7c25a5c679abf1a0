import Tabula.Layout.Program
import Tabula.Screen.Grid
/-! # Splitting an area

    An area is split along one direction into segments, one per constraint, with spacers
    between them: a spacer before the first segment, one between each two, and one after
    the last.  The split is the least weighted deviation of the wishes below, sizes being
    counted in hundredths of a cell:

    * the first spacer is empty, each inner spacer is the spacing, and the last spacer
      grows toward the whole area (all segments start at the beginning);
    * a `length` segment has its length; a `min` segment is at least its minimum and grows
      toward the whole area, as does a `fill`; a `percentage` or a `ratio` segment has its
      share of the area;
    * segments that grow share alike, and every two neighbouring segments weakly wish to
      be equal.

    The weights, from strongest: an empty first spacer, the spacing, minimums, lengths,
    percentages, ratios, growing segments, the last spacer, equal neighbours.  Each edge
    of a segment is rounded to whole hundredths and then to whole cells, halves away from
    zero. -/

namespace Tabula

/-- A wish on the size of a segment. -/
inductive Constraint where
  | length (n : Nat)
  | min (n : Nat)
  | percentage (p : Nat)
  | ratio (num den : Nat)
  | fill (scale : Nat)
  deriving DecidableEq, BEq

/-- The direction of a split. -/
inductive Direction where
  | horizontal
  | vertical
  deriving DecidableEq, BEq

namespace Layout

/-- The weight of what must hold. -/
def required : Rat := 1001001000
/-- A strong wish. -/
def strong : Rat := 1000000
/-- A medium wish. -/
def medium : Rat := 1000

/-- The hundredths of a cell. -/
def scale : Rat := 100

/-- A rational rounded to the nearest whole number, halves away from zero. -/
def roundHalfAway (q : Rat) : Int :=
  if q < 0 then -((-q + 1 / 2).floor) else (q + 1 / 2).floor

/-- The gap index of spacer `i`. -/
def spacerGap (i : Nat) : Nat := 2 * i

/-- The gap index of segment `i`. -/
def segmentGap (i : Nat) : Nat := 2 * i + 1

/-- Whether a constraint makes its segment grow. -/
def grows : Constraint → Bool
  | .min _ | .fill _ => true
  | _ => false

/-- How strongly a growing segment grows, relative to the others. -/
def growScale : Constraint → Rat
  | .fill k => if k == 0 then 1 / 1000000 else k
  | _ => 1

/-- The wishes on one segment of an area of `total` hundredths. -/
def segmentWishes (total : Rat) (i : Nat) : Constraint → List Wish
  | .length n => [⟨[(segmentGap i, 1)], n * scale, strong * 10, .equal⟩]
  | .min n => [⟨[(segmentGap i, 1)], n * scale, strong * 100, .atLeast⟩,
      ⟨[(segmentGap i, 1)], total, medium, .equal⟩]
  | .percentage p => [⟨[(segmentGap i, 1)], total * p / 100, strong, .equal⟩]
  | .ratio a b => [⟨[(segmentGap i, 1)], total * a / (Nat.max b 1), strong / 10, .equal⟩]
  | .fill _ => [⟨[(segmentGap i, 1)], total, medium, .equal⟩]

/-- The program of a split of `size` cells with a spacing. -/
def program (size spacing : Nat) (cs : List Constraint) : Program :=
  let n := cs.length
  let total : Rat := size * scale
  let spacers : List Wish :=
    [⟨[(spacerGap 0, 1)], 0, required - 1, .equal⟩]
      ++ (List.range (n - 1)).map (fun i =>
        ⟨[(spacerGap (i + 1), 1)], spacing * scale, required / 10, .equal⟩)
      ++ [⟨[(spacerGap n, 1)], total, 100, .equal⟩]
  let segments := (cs.zipIdx.map fun (c, i) => segmentWishes total i c).flatten
  let growing := cs.zipIdx.filter (grows ·.1)
  let shares := (growing.zipIdx.map fun ((l, i), k) =>
    (growing.drop (k + 1)).map fun (r, j) =>
      (⟨[(segmentGap i, growScale r), (segmentGap j, -growScale l)], 0, 100, .equal⟩ : Wish)).flatten
  let neighbours := (List.range (n - 1)).map fun i =>
    (⟨[(segmentGap i, 1), (segmentGap (i + 1), -1)], 0, 1, .equal⟩ : Wish)
  ⟨2 * n + 1, total, spacers ++ segments ++ shares ++ neighbours⟩

/-- The edges of the segments of a split of `size` cells, as offsets in whole cells. -/
def edges (size spacing : Nat) (cs : List Constraint) : List (Nat × Nat) :=
  let gaps := (program size spacing cs).solve
  let positions := (gaps.toList.foldl (fun (acc : List Rat × Rat) g =>
    (acc.2 :: acc.1, acc.2 + g)) ([], 0)).1.reverse
  let cell := fun (v : Rat) => (roundHalfAway ((roundHalfAway v : Rat) / scale)).toNat
  (List.range cs.length).map fun i =>
    let a := cell (positions.getD (segmentGap i) 0)
    let b := cell (positions.getD (segmentGap i + 1) (gaps.foldl (· + ·) 0))
    (a, b - a)

end Layout

/-- Splits an area into one rectangle per constraint. -/
def Rect.split (r : Rect) (d : Direction) (spacing : Nat) (cs : List Constraint) : List Rect :=
  match d with
  | .horizontal =>
    (Layout.edges r.width spacing cs).map fun (o, w) => ⟨r.x + o, r.y, w, r.height⟩
  | .vertical =>
    (Layout.edges r.height spacing cs).map fun (o, h) => ⟨r.x, r.y + o, r.width, h⟩

end Tabula
