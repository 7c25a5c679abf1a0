import Tabula.Model.Table
import Tabula.Decimal.Nearest
import Tabula.Text.Blank
/-! # Typed cell entries

    What a user types into a cell becomes a value by the kind of its column.  The text is
    trimmed first, and blank text empties the cell.

    * a number column takes a whole number of the signed 64-bit range (an optional sign
      and digits), else a finite decimal (an optional sign, digits with an optional point
      and at least one digit, an optional exponent), read as the nearest double; else it
      keeps the text;
    * a checkbox column takes `x`, `y`, `yes`, `true` and `1` as ticked and `n`, `no`,
      `false` and `0` as clear, in any ASCII case; else it keeps the text;
    * every other column keeps the text. -/

namespace Tabula

namespace Entry

/-- A sign at the front of a text: whether it is a minus, and what follows it. -/
def sign : List Char → Bool × List Char
  | '-' :: rest => (true, rest)
  | '+' :: rest => (false, rest)
  | cs => (false, cs)

/-- The number written by a run of decimal digits. -/
def digitsValue (ds : List Char) : Nat :=
  ds.foldl (fun n d => 10 * n + (d.toNat - '0'.toNat)) 0

/-- Whether a text is one or more decimal digits. -/
def allDigits (ds : List Char) : Bool := !ds.isEmpty && ds.all Char.isDigit

/-- A signed run of digits, the sign optional. -/
def signedDigits? (cs : List Char) : Option Int :=
  let (negative, ds) := sign cs
  if allDigits ds then
    some (if negative then -(digitsValue ds : Int) else digitsValue ds)
  else none

/-- A whole number of the signed 64-bit range. -/
def whole? (s : String) : Option Int :=
  (signedDigits? s.toList).filter fun n => -(Int.pow 2 63) ≤ n && n < Int.pow 2 63

/-- The exponent that ends a decimal: nothing, or `e` or `E` and signed digits. -/
def exponent? : List Char → Option Int
  | [] => some 0
  | e :: rest => if e == 'e' || e == 'E' then signedDigits? rest else none

/-- The finite double nearest to a decimal, a tie going to the even one; none when the
    text is no decimal or the value is past the largest double. -/
def decimal? (s : String) : Option Float :=
  let (negative, rest) := sign s.toList
  let whole := rest.takeWhile Char.isDigit
  let rest := rest.dropWhile Char.isDigit
  let (fraction, rest) := match rest with
    | '.' :: more => (more.takeWhile Char.isDigit, more.dropWhile Char.isDigit)
    | _ => ([], rest)
  if whole.isEmpty && fraction.isEmpty then none
  else
    (exponent? rest).bind fun e =>
      let x := Decimal.nearest negative (digitsValue (whole ++ fraction)) (e - fraction.length)
      if x.isFinite then some x else none

/-- The texts of a ticked checkbox, in lower case. -/
def ticked : List String := ["x", "y", "yes", "true", "1"]

/-- The texts of a clear checkbox, in lower case. -/
def clear : List String := ["n", "no", "false", "0"]

end Entry

/-- The value that typed text gives a cell of a column kind. -/
def ColumnKind.entry (kind : ColumnKind) (typed : String) : Json.Value :=
  let text := Text.trim typed
  if text.isEmpty then .null
  else
    match kind with
    | .number =>
      match Entry.whole? text with
      | some n => .num (.int n)
      | none =>
        match Entry.decimal? text with
        | some x => .num (.float x)
        | none => .str text
    | .checkbox =>
      let lower := text.map Char.toLower
      if Entry.ticked.contains lower then .bool true
      else if Entry.clear.contains lower then .bool false
      else .str text
    | _ => .str text

end Tabula
