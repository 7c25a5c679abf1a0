/-! # Shortest decimal digits of a double

    A finite double is `m · 2^q` for a whole `m`.  The reals that round to it form an
    interval around it, half a unit wide on each side (a quarter below when `m` is the
    smallest mantissa of its binade), with both ends included when `m` is even.  Its
    shortest digits are found by trying grids of 1, 2, ..., 17 significant digits: on each
    grid the two neighbours of the value are tested, the first grid on which one lies in
    the interval wins, the nearer of two wins, and an exact tie goes to the even one.
    All of it is exact arithmetic on whole numbers.

    * `Binary.ofFloat` splits a double into sign, mantissa and exponent;
    * `Binary.shortest` gives digits `c` and exponent `k` with value `c · 10^k`. -/

namespace Tabula.Decimal

/-- A finite nonzero double as `mantissa · 2^exponent`, with its sign apart. -/
structure Binary where
  negative : Bool
  mantissa : Nat
  exponent : Int
  /-- The lower gap is half the upper one: the mantissa is the least of its binade. -/
  narrowBelow : Bool

/-- The parts of a double given by its bits: `none` for zero, infinities and NaN. -/
def Binary.ofBits (bits : Nat) : Option Binary :=
  let negative : Bool := bits / Nat.pow 2 63 % 2 == 1
  let e : Nat := bits / Nat.pow 2 52 % Nat.pow 2 11
  let f : Nat := bits % Nat.pow 2 52
  if e == 2047 then none
  else if e == 0 then
    if f == 0 then none else some ⟨negative, f, -1074, false⟩
  else some ⟨negative, Nat.pow 2 52 + f, (e : Int) - 1075, f == 0 && e > 1⟩

/-- The parts of a double. -/
def Binary.ofFloat (x : Float) : Option Binary :=
  Binary.ofBits x.toBits.toNat

/-- A positive rational as numerator over denominator. -/
structure Ratio where
  num : Nat
  den : Nat

/-- `a < b` for positive rationals. -/
def Ratio.lt (a b : Ratio) : Bool := a.num * b.den < b.num * a.den

/-- `a ≤ b` for positive rationals. -/
def Ratio.le (a b : Ratio) : Bool := a.num * b.den ≤ b.num * a.den

/-- `c · 10^k` as a rational. -/
def gridPoint (c : Nat) (k : Int) : Ratio :=
  if k ≥ 0 then ⟨c * Nat.pow 10 k.toNat, 1⟩ else ⟨c, Nat.pow 10 (-k).toNat⟩

/-- `m · 2^q` as a rational. -/
def binaryPoint (m : Nat) (q : Int) : Ratio :=
  if q ≥ 0 then ⟨m * Nat.pow 2 q.toNat, 1⟩ else ⟨m, Nat.pow 2 (-q).toNat⟩

namespace Binary

/-- The value of the double, without its sign. -/
def value (b : Binary) : Ratio := binaryPoint b.mantissa b.exponent

/-- The lower end of the rounding interval. -/
def low (b : Binary) : Ratio :=
  if b.narrowBelow then binaryPoint (4 * b.mantissa - 1) (b.exponent - 2)
  else binaryPoint (2 * b.mantissa - 1) (b.exponent - 1)

/-- The upper end of the rounding interval. -/
def high (b : Binary) : Ratio := binaryPoint (2 * b.mantissa + 1) (b.exponent - 1)

/-- Whether the ends of the rounding interval round to this double. -/
def closed (b : Binary) : Bool := b.mantissa % 2 == 0

/-- Whether a rational rounds to this double. -/
def holds (b : Binary) (r : Ratio) : Bool :=
  if b.closed then b.low.le r && r.le b.high else b.low.lt r && r.lt b.high

/-- The decimal exponent `E` with `10^E ≤ value < 10^(E+1)`, found from an estimate by
    at most a few steps either way. -/
def decimalExponent (b : Binary) : Int :=
  let v := b.value
  let guess : Int := Int.fdiv (((Nat.log2 b.mantissa : Int) + b.exponent) * 30103) 100000
  let down := fun (e : Int) => if v.lt (gridPoint 1 e) then e - 1 else e
  let up := fun (e : Int) => if (gridPoint 1 (e + 1)).le v then e + 1 else e
  up (up (down (down guess)))

/-- `⌊value / 10^k⌋`. -/
def floorOnGrid (b : Binary) (k : Int) : Nat :=
  let v := b.value
  let g := gridPoint 1 k
  -- value / 10^k = (v.num * g.den) / (v.den * g.num)
  v.num * g.den / (v.den * g.num)

/-- The digits on the grid `10^k` that name this double, if a neighbour of its value on
    that grid rounds to it: the nearer of the two, an exact tie going to the even one. -/
def onGrid (b : Binary) (k : Int) : Option Nat :=
  let v := b.value
  let c := b.floorOnGrid k
  let lo := gridPoint c k
  let hi := gridPoint (c + 1) k
  let loIn := b.holds lo
  let hiIn := b.holds hi
  if lo.le v && v.le lo then some c
  else if loIn && hiIn then
    -- distances value − lo and hi − value, over the common denominator
    let dLo := v.num * lo.den - lo.num * v.den
    let dHi := hi.num * v.den - v.num * hi.den
    -- both were scaled by v.den * lo.den (lo and hi share a denominator)
    if dLo < dHi then some c
    else if dHi < dLo then some (c + 1)
    else if c % 2 == 0 then some c else some (c + 1)
  else if loIn then some c
  else if hiIn then some (c + 1)
  else none

/-- Tries grids of `n`, `n + 1`, ... significant digits, `fuel` of them. -/
def searchDigits (b : Binary) (e : Int) : Nat → Nat → Option (Nat × Int)
  | 0, _ => none
  | fuel + 1, n =>
    let k := e - n + 1
    match b.onGrid k with
    | some c => some (c, k)
    | none => searchDigits b e fuel (n + 1)

/-- Removes trailing zeros from digits, raising the exponent. -/
def stripZeros : Nat → Nat × Int → Nat × Int
  | 0, p => p
  | fuel + 1, (c, k) =>
    if c ≠ 0 ∧ c % 10 = 0 then stripZeros fuel (c / 10, k + 1) else (c, k)

/-- The shortest digits `c` and exponent `k` whose value `c · 10^k` rounds to this
    double, with no trailing zero in `c`. -/
def shortest (b : Binary) : Nat × Int :=
  let e := b.decimalExponent
  match searchDigits b e 17 1 with
  | some p => stripZeros 20 p
  | none => stripZeros 40 (b.floorOnGrid (e - 16), e - 16)

end Binary

end Tabula.Decimal
