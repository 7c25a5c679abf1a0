import Tabula.Json.Value
import Tabula.Decimal.Shortest
/-! # Writing JSON

    Values are written either compactly, with no blank anywhere, or pretty, each member and
    item on a line of its own indented by two spaces per level and a key followed by
    `": "`.  Empty arrays and objects stay `[]` and `{}` in both.

    Strings escape the double quote, the backslash and every control below `U+0020`: five
    of them by letter (`\b \t \n \f \r`), the others as `\u00xx` in lowercase hexadecimal.

    A double is written with its shortest digits: positionally while the decimal point
    falls from five places left of the first digit to sixteen places right of it, a whole
    double keeping `.0`, and otherwise with one digit before the point and an exponent
    with its sign, `1e+20` and `1e-7`. -/

namespace Tabula.Json

open Tabula.Decimal

/-- `n` zeros. -/
def zeros (n : Nat) : String := String.ofList (List.replicate n '0')

/-- An exponent with its sign: `+20`, `-7`. -/
def exponentText (e : Int) : String := (if e < 0 then "" else "+") ++ toString e

/-- The text of digits `ds` whose decimal point stands `point` places after the first
    digit. -/
def layoutDigits (ds : String) (point : Int) : String :=
  let len : Int := ds.length
  if 0 ≤ point - len ∧ point ≤ 16 then
    ds ++ zeros (point - len).toNat ++ ".0"
  else if 0 < point ∧ point ≤ 16 then
    (ds.take point.toNat).toString ++ "." ++ (ds.drop point.toNat).toString
  else if -5 < point ∧ point ≤ 0 then
    "0." ++ zeros (-point).toNat ++ ds
  else
    let mantissa := if ds.length == 1 then ds
      else (ds.take 1).toString ++ "." ++ (ds.drop 1).toString
    mantissa ++ "e" ++ exponentText (point - 1)

example : layoutDigits "1" 21 = "1e+20" := by decide
example : layoutDigits "15" (-6) = "1.5e-7" := by decide

/-- The text of a double; `null` for infinities and NaN. -/
def doubleText (x : Float) : String :=
  if x.isNaN || x.isInf then "null"
  else match Binary.ofFloat x with
    | none =>
      let sign := if x.toBits.toNat ≥ Nat.pow 2 63 then "-" else ""
      sign ++ "0.0"
    | some b =>
      let (c, k) := b.shortest
      let ds := toString c
      (if b.negative then "-" else "") ++ layoutDigits ds (k + ds.length)

/-- The text of a number. -/
def Number.text : Number → String
  | .int n => toString n
  | .float x => doubleText x

/-- Two lowercase hexadecimal digits of a number below 256. -/
def hex2 (n : Nat) : String :=
  let d := fun (k : Nat) => "0123456789abcdef".toList.getD k '0'
  String.ofList [d (n / 16), d (n % 16)]

/-- The escaped form of one character of a string. -/
def escapeChar (c : Char) : String :=
  if c = '"' then "\\\""
  else if c = '\\' then "\\\\"
  else if c.toNat < 0x20 then
    if c.toNat = 8 then "\\b"
    else if c = '\t' then "\\t"
    else if c = '\n' then "\\n"
    else if c.toNat = 12 then "\\f"
    else if c = '\r' then "\\r"
    else "\\u00" ++ hex2 c.toNat
  else c.toString

/-- A string as a JSON string literal. -/
def quote (s : String) : String :=
  "\"" ++ String.join (s.toList.map escapeChar) ++ "\""

/-- The compact text of a value. -/
def Value.compact : Value → String
  | .null => "null"
  | .bool b => if b then "true" else "false"
  | .num n => n.text
  | .str s => quote s
  | .arr items => "[" ++ items' items ++ "]"
  | .obj members => "\x7b" ++ members' members ++ "\x7d"
where
  /-- Items separated by commas. -/
  items' : List Value → String
    | [] => ""
    | [v] => Value.compact v
    | v :: rest => Value.compact v ++ "," ++ items' rest
  /-- Members separated by commas. -/
  members' : List (String × Value) → String
    | [] => ""
    | [(k, v)] => quote k ++ ":" ++ Value.compact v
    | (k, v) :: rest => quote k ++ ":" ++ Value.compact v ++ "," ++ members' rest

/-- Two spaces for each level. -/
def indent (depth : Nat) : String := String.ofList (List.replicate (2 * depth) ' ')

/-- The pretty text of a value whose first line is already indented by `depth` levels. -/
def Value.prettyAt (depth : Nat) : Value → String
  | .arr [] => "[]"
  | .obj [] => "\x7b\x7d"
  | .arr items => "[\n" ++ items' depth items ++ "\n" ++ indent depth ++ "]"
  | .obj members => "\x7b\n" ++ members' depth members ++ "\n" ++ indent depth ++ "\x7d"
  | v => Value.compact v
where
  /-- Items one to a line, one level deeper than `depth`. -/
  items' (depth : Nat) : List Value → String
    | [] => ""
    | [v] => indent (depth + 1) ++ Value.prettyAt (depth + 1) v
    | v :: rest => indent (depth + 1) ++ Value.prettyAt (depth + 1) v ++ ",\n" ++ items' depth rest
  /-- Members one to a line, one level deeper than `depth`. -/
  members' (depth : Nat) : List (String × Value) → String
    | [] => ""
    | [(k, v)] => indent (depth + 1) ++ quote k ++ ": " ++ Value.prettyAt (depth + 1) v
    | (k, v) :: rest =>
      indent (depth + 1) ++ quote k ++ ": " ++ Value.prettyAt (depth + 1) v ++ ",\n"
        ++ members' depth rest

/-- The pretty text of a value. -/
def Value.pretty (v : Value) : String := v.prettyAt 0

end Tabula.Json
