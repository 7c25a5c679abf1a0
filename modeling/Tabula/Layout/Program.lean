/-! # Least weighted deviation

    A program asks for nonnegative gaps that add up to a total and that keep, as well as
    they can, a list of wishes: each wish is a linear expression in the gaps with a target
    and a weight, and costs its weight for every unit by which the expression misses the
    target (on both sides, or only below, or only above).  The answer minimises the sum
    of the costs.

    It is found by the simplex method on exact rationals.  Each wish `e` gets two
    nonnegative deviations with `e - above + below = target`; the start puts the whole
    total in the first gap, which makes each wish's row feasible at once with one of its
    two deviations basic.  Pivots follow the least-index rule, which never cycles; the
    fuel only bounds the work. -/

namespace Tabula

/-- Which misses of a wish cost. -/
inductive Sense where
  | equal
  | atLeast
  | atMost
  deriving DecidableEq, BEq

/-- A wish: coefficients of gaps by index, target, weight and which misses cost. -/
structure Wish where
  coeffs : List (Nat × Rat)
  target : Rat
  weight : Rat
  sense : Sense

/-- A program: the number of gaps, their total and the wishes. -/
structure Program where
  gaps : Nat
  total : Rat
  wishes : List Wish

/-- A simplex tableau: rows of coefficients with the right side last, the basic
    variable of each row, and the reduced costs. -/
structure Tableau where
  rows : Array (Array Rat)
  basis : Array Nat
  costs : Array Rat

namespace Tableau

/-- Row `r` of the tableau. -/
def row (t : Tableau) (r : Nat) : Array Rat := t.rows.getD r #[]

/-- The right side of row `r`. -/
def rhs (t : Tableau) (r : Nat) : Rat := (t.row r).back?.getD 0

/-- Subtracts `f` times one row from another, entry by entry. -/
def subtractScaled (row pivotRow : Array Rat) (f : Rat) : Array Rat :=
  if f == 0 then row else Array.zipWith (fun x y => x - f * y) row pivotRow

/-- Makes column `c` basic in row `r`. -/
def pivot (t : Tableau) (r c : Nat) : Tableau :=
  let a := (t.row r).getD c 0
  let pr := (t.row r).map (· / a)
  let rows := t.rows.mapIdx fun i row =>
    if i == r then pr else subtractScaled row pr (row.getD c 0)
  let costs := subtractScaled t.costs pr (t.costs.getD c 0)
  { rows, basis := t.basis.setIfInBounds r c, costs }

/-- The least column whose reduced cost is negative. -/
def entering (t : Tableau) : Option Nat :=
  (List.range t.costs.size).find? fun j => t.costs.getD j 0 < 0

/-- The row that leaves when column `c` enters: the least ratio of right side to a
    positive coefficient, ties to the least basic variable. -/
def leaving (t : Tableau) (c : Nat) : Option Nat :=
  (List.range t.rows.size).foldl (fun best i =>
    let a := (t.row i).getD c 0
    if a ≤ 0 then best
    else
      let ratio := t.rhs i / a
      match best with
      | none => some i
      | some b =>
        let rb := t.rhs b / (t.row b).getD c 0
        if ratio < rb || (ratio == rb && t.basis.getD i 0 < t.basis.getD b 0) then some i
        else best) none

/-- Pivots until no reduced cost is negative, at most `fuel` times. -/
def optimize (t : Tableau) : Nat → Tableau
  | 0 => t
  | fuel + 1 =>
    match t.entering with
    | none => t
    | some c =>
      match t.leaving c with
      | none => t
      | some r => (t.pivot r c).optimize fuel

/-- The value of each of the first `n` variables. -/
def values (t : Tableau) (n : Nat) : Array Rat :=
  (List.range t.rows.size).foldl (fun vs i =>
    let b := t.basis.getD i 0
    if b < n then vs.setIfInBounds b (t.rhs i) else vs) (Array.replicate n 0)

end Tableau

namespace Program

/-- The number of columns: the gaps, then two deviations per wish. -/
def width (p : Program) : Nat := p.gaps + 2 * p.wishes.length

/-- The cost of every column: a deviation above costs the weight unless only being
    below costs, and one below unless only being above costs. -/
def columnCosts (p : Program) : Array Rat :=
  let devs := p.wishes.flatMap fun w =>
    [if w.sense == .atLeast then 0 else w.weight, if w.sense == .atMost then 0 else w.weight]
  (Array.replicate p.gaps 0) ++ devs.toArray

/-- The row of a wish: its coefficients, `-1` on its deviation above, `1` on the one
    below, and the target. -/
def wishRow (p : Program) (k : Nat) (w : Wish) : Array Rat :=
  let base := Array.replicate (p.width + 1) (0 : Rat)
  let base := w.coeffs.foldl (fun row (j, a) =>
    if j < p.gaps then row.modify j (· + a) else row) base
  let base := base.setIfInBounds (p.gaps + 2 * k) (-1)
  let base := base.setIfInBounds (p.gaps + 2 * k + 1) 1
  base.setIfInBounds p.width w.target

/-- The starting tableau: the total in the first gap, and each wish's row solved for the
    deviation its sign calls for. -/
def start (p : Program) : Tableau :=
  let sumRow := ((Array.replicate p.gaps (1 : Rat)) ++ Array.replicate (2 * p.wishes.length) 0).push
    p.total
  let rows := (p.wishes.zipIdx.map fun (w, k) =>
    let row := p.wishRow k w
    Tableau.subtractScaled row sumRow (row.getD 0 0)).toArray
  let (rows, basis) := (List.range rows.size).foldl (fun (acc : Array (Array Rat) × Array Nat) k =>
    let row := acc.1.getD k #[]
    if (row.back?.getD 0) < 0 then
      (acc.1.setIfInBounds k (row.map (fun x => -x)), acc.2.push (p.gaps + 2 * k))
    else (acc.1, acc.2.push (p.gaps + 2 * k + 1))) (rows, #[])
  let rows := #[sumRow] ++ rows
  let basis := #[0] ++ basis
  let costs := p.columnCosts
  let reduced := (List.range rows.size).foldl (fun cs i =>
    Tableau.subtractScaled cs (rows.getD i #[]) (costs.getD (basis.getD i 0) 0)) costs
  { rows, basis, costs := reduced }

/-- The gaps that minimise the cost. -/
def solve (p : Program) : Array Rat :=
  if p.gaps == 0 then #[]
  else
    let t := p.start
    (t.optimize (50 * (t.rows.size + p.width) + 100)).values p.gaps

end Program

end Tabula
