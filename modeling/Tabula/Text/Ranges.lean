/-! # Tables of code-point ranges

    A property of characters taken from the Unicode data files is a sorted list of disjoint,
    inclusive ranges of code points.  A table is written as one text of hexadecimal bounds,
    `lo hi lo hi ...`, which keeps large tables cheap to elaborate, and it is searched by
    halving the range list.

    * `RangeTable.ofHex` reads the bounds;
    * `RangeTable.contains` answers membership of a character. -/

namespace Tabula.Text

/-- Sorted, disjoint, inclusive ranges of code points. -/
structure RangeTable where
  ranges : Array (Nat × Nat)

namespace RangeTable

/-- The value of one hexadecimal digit. -/
def hexDigit? (c : Char) : Option Nat :=
  if '0' ≤ c ∧ c ≤ '9' then some (c.toNat - '0'.toNat)
  else if 'a' ≤ c ∧ c ≤ 'f' then some (c.toNat - 'a'.toNat + 10)
  else if 'A' ≤ c ∧ c ≤ 'F' then some (c.toNat - 'A'.toNat + 10)
  else none

/-- The number written by a run of hexadecimal digits; other characters are skipped. -/
def hexValue (w : String) : Nat :=
  w.foldl (fun acc c => match hexDigit? c with
    | some d => acc * 16 + d
    | none => acc) 0

/-- The words of a blank-separated text, each read as a hexadecimal number. -/
def hexNumbers (s : String) : List Nat :=
  ((s.splitOn " ").filter (fun w => !w.isEmpty)).map hexValue

/-- Consecutive numbers paired up as ranges; an odd last number is dropped. -/
def pairUp : List Nat → List (Nat × Nat)
  | lo :: hi :: rest => (lo, hi) :: pairUp rest
  | _ => []

/-- The table whose bounds a text lists in hexadecimal, `lo hi lo hi ...`. -/
def ofHex (s : String) : RangeTable :=
  ⟨(pairUp (hexNumbers s)).toArray⟩

/-- Whether `n` lies in one of the ranges with index in `[lo, hi)`. -/
def containsBetween (t : Array (Nat × Nat)) (n lo hi : Nat) : Bool :=
  if lo < hi then
    let mid := (lo + hi) / 2
    match t[mid]? with
    | some (a, b) =>
      if n < a then containsBetween t n lo mid
      else if b < n then containsBetween t n (mid + 1) hi
      else true
    | none => false
  else false
termination_by hi - lo

/-- Whether a code point lies in the table. -/
def containsNat (t : RangeTable) (n : Nat) : Bool :=
  containsBetween t.ranges n 0 t.ranges.size

/-- Whether a character lies in the table. -/
def contains (t : RangeTable) (c : Char) : Bool :=
  t.containsNat c.toNat

end RangeTable

end Tabula.Text
