import Tabula.Decimal.Shortest
/-! # The double nearest to a decimal

    A decimal `d · 10^k` is read as the double nearest to it, a tie going to the even
    mantissa: the quotient of the exact value by the unit of its binade is rounded once,
    in whole-number arithmetic.  Values past the largest double become infinity and values
    below half the least subnormal become zero.

    * `nearestBits` gives the bits of the nearest double;
    * `nearest` gives the double itself. -/

namespace Tabula.Decimal

/-- The number of decimal digits of a positive number. -/
def digitCount (n : Nat) : Nat := (Nat.toDigits 10 n).length

/-- `⌊log₂ (num / den)⌋` for positive `num` and `den`, found from the bit lengths by at most
    one step either way. -/
def binaryExponent (r : Ratio) : Int :=
  let guess : Int := (Nat.log2 r.num : Int) - Nat.log2 r.den
  -- 2^guess ≤ r ?
  let fits := fun (e : Int) => (binaryPoint 1 e).le r
  if fits guess then (if fits (guess + 1) then guess + 1 else guess) else guess - 1

/-- `num / den` rounded to a whole number, a tie going to the even one. -/
def roundHalfEven (num den : Nat) : Nat :=
  let q := num / den
  let r := num % den
  if 2 * r < den then q
  else if 2 * r > den then q + 1
  else if q % 2 == 0 then q else q + 1

/-- The bits of the positive double nearest to `r`, for `r` between `10^-400` and
    `10^310`. -/
def ratioBits (r : Ratio) : Nat :=
  let e2 := binaryExponent r
  -- the unit of the last mantissa bit: 2^(e2 − 52), but never below 2^−1074
  let q := max (e2 - 52) (-1074)
  let m := if q ≥ 0 then roundHalfEven r.num (r.den * Nat.pow 2 q.toNat)
    else roundHalfEven (r.num * Nat.pow 2 (-q).toNat) r.den
  -- rounding up may carry into the next binade
  let (m, q) := if m == Nat.pow 2 53 then (Nat.pow 2 52, q + 1) else (m, q)
  if q + 52 > 1023 then 0x7FF0000000000000
  else if m < Nat.pow 2 52 then m
  else (q + 1075).toNat * Nat.pow 2 52 + (m - Nat.pow 2 52)

/-- The bits of the double nearest to `(-1)^negative · digits · 10^exp10`. -/
def nearestBits (negative : Bool) (digits : Nat) (exp10 : Int) : Nat :=
  let sign := if negative then Nat.pow 2 63 else 0
  if digits == 0 then sign
  else
    let size := (digitCount digits : Int) + exp10
    if size > 310 then sign + 0x7FF0000000000000
    else if size < -330 then sign
    else sign + ratioBits (gridPoint digits exp10)

/-- The double nearest to `(-1)^negative · digits · 10^exp10`. -/
def nearest (negative : Bool) (digits : Nat) (exp10 : Int) : Float :=
  Float.ofBits (nearestBits negative digits exp10).toUInt64

end Tabula.Decimal
