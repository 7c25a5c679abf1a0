import Tabula.Json.Value
import Tabula.Decimal.Nearest
/-! # Reading JSON

    A reader of JSON texts that stops at the first fault and names it.  Faults fall in three
    classes: the text breaks the grammar (`grammar`), the text ends too early
    (`truncated`), or the text is well formed but not of the form asked for (`shape`).

    Numbers are read as follows.  An integer that fits 64 bits stays whole; zero with a
    minus sign, integers beyond the range and every number with a fraction or an exponent
    become doubles.  A double is computed from its first significant digits, as many as
    fit a 64-bit whole number, converted to the nearest double, then multiplied or divided
    by the nearest double to a power of ten; a product past the largest double is the
    fault `numberOutOfRange`.

    Arrays and objects nest at most 127 deep; one more is `recursionLimitExceeded`.

    Every loop takes at least one character a step, so each reader is given fuel one above
    the length of its text.

    * `readValue` reads one value;
    * `skipValue` passes over a value that is not kept, checking its grammar only;
    * `parse` reads a whole text holding one value. -/

namespace Tabula.Json

/-- What went wrong while reading. -/
inductive Fault where
  | eofWhileParsingList
  | eofWhileParsingObject
  | eofWhileParsingString
  | eofWhileParsingValue
  | expectedColon
  | expectedListCommaOrEnd
  | expectedObjectCommaOrEnd
  | expectedSomeIdent
  | expectedSomeValue
  | invalidEscape
  | invalidNumber
  | numberOutOfRange
  | controlCharacterWhileParsingString
  | keyMustBeAString
  | loneLeadingSurrogateInHexEscape
  | trailingComma
  | trailingCharacters
  | unexpectedEndOfHexEscape
  | recursionLimitExceeded
  /-- A value of another type than the one asked for. -/
  | wrongType
  /-- A number outside the range asked for. -/
  | wrongValue
  /-- A record lacks a member that it must have. -/
  | missingField (name : String)
  /-- A record names a member twice. -/
  | duplicateField (name : String)
  /-- A record written as an array has too few items. -/
  | tooShort
  deriving Repr, BEq

/-- The three classes of faults. -/
inductive Category where
  | grammar
  | truncated
  | shape
  deriving Repr, BEq, DecidableEq

/-- The class of a fault. -/
def Fault.category : Fault → Category
  | .eofWhileParsingList | .eofWhileParsingObject | .eofWhileParsingString
  | .eofWhileParsingValue => .truncated
  | .wrongType | .wrongValue | .missingField _ | .duplicateField _ | .tooShort => .shape
  | _ => .grammar

/-- The words for a fault. -/
def Fault.message : Fault → String
  | .eofWhileParsingList => "EOF while parsing a list"
  | .eofWhileParsingObject => "EOF while parsing an object"
  | .eofWhileParsingString => "EOF while parsing a string"
  | .eofWhileParsingValue => "EOF while parsing a value"
  | .expectedColon => "expected `:`"
  | .expectedListCommaOrEnd => "expected `,` or `]`"
  | .expectedObjectCommaOrEnd => "expected `,` or `\x7d`"
  | .expectedSomeIdent => "expected ident"
  | .expectedSomeValue => "expected value"
  | .invalidEscape => "invalid escape"
  | .invalidNumber => "invalid number"
  | .numberOutOfRange => "number out of range"
  | .controlCharacterWhileParsingString =>
    "control character (\\u0000-\\u001F) found while parsing a string"
  | .keyMustBeAString => "key must be a string"
  | .loneLeadingSurrogateInHexEscape => "lone leading surrogate in hex escape"
  | .trailingComma => "trailing comma"
  | .trailingCharacters => "trailing characters"
  | .unexpectedEndOfHexEscape => "unexpected end of hex escape"
  | .recursionLimitExceeded => "recursion limit exceeded"
  | .wrongType => "invalid type"
  | .wrongValue => "invalid value"
  | .missingField name => "missing field `" ++ name ++ "`"
  | .duplicateField name => "duplicate field `" ++ name ++ "`"
  | .tooShort => "invalid length"

/-- A fault and how many characters were left unread where it was found. -/
structure ReadError where
  fault : Fault
  left : Nat
  deriving Repr

/-- The class of a reading error. -/
def ReadError.category (e : ReadError) : Category := e.fault.category

/-- The result of reading a prefix: a value and the characters after it. -/
abbrev Reading (α : Type) := Except ReadError (α × List Char)

/-- Fails with a fault found before the characters `rest`. -/
def failAt (f : Fault) (rest : List Char) : Except ReadError α :=
  .error ⟨f, rest.length⟩

/-- Whether a character is blank between JSON tokens. -/
def isJsonBlank (c : Char) : Bool :=
  c = ' ' || c = '\n' || c = '\t' || c = '\r'

/-- Drops the blanks before the next token. -/
def skipBlank (cs : List Char) : List Char := cs.dropWhile isJsonBlank

/-- Reads the rest of a literal whose first letter was taken. -/
def readIdent : List Char → List Char → Except ReadError (List Char)
  | [], cs => .ok cs
  | _ :: _, [] => failAt .eofWhileParsingValue []
  | e :: es, c :: cs => if c = e then readIdent es cs else failAt .expectedSomeIdent cs

/-- Whether a character is an ASCII digit. -/
def isDigit (c : Char) : Bool := '0' ≤ c && c ≤ '9'

/-- The value of a digit. -/
def digitValue (c : Char) : Nat := c.toNat - '0'.toNat

/-! ## Strings -/

/-- The value of an ASCII hexadecimal digit. -/
def hexValue? (c : Char) : Option Nat :=
  if '0' ≤ c ∧ c ≤ '9' then some (c.toNat - '0'.toNat)
  else if 'a' ≤ c ∧ c ≤ 'f' then some (c.toNat - 'a'.toNat + 10)
  else if 'A' ≤ c ∧ c ≤ 'F' then some (c.toNat - 'A'.toNat + 10)
  else none

/-- The value of four hexadecimal digits at the front, with the rest; at least four bytes
    must remain or the string ends too early. -/
def readHex4 (cs : List Char) : Except ReadError (Nat × List Char) :=
  match cs with
  | a :: b :: c :: d :: rest =>
    match hexValue? a, hexValue? b, hexValue? c, hexValue? d with
    | some w, some x, some y, some z => .ok (((w * 16 + x) * 16 + y) * 16 + z, rest)
    | _, _, _, _ => failAt .invalidEscape rest
  | _ =>
    if (cs.map Char.utf8Size).foldl (· + ·) 0 ≥ 4 then failAt .invalidEscape []
    else failAt .eofWhileParsingString []

/-- The character of a simple escape letter. -/
def simpleEscape (c : Char) : Option Char :=
  if c = '"' then some '"' else if c = '\\' then some '\\' else if c = '/' then some '/'
  else if c = 'b' then some (Char.ofNat 8) else if c = 'f' then some (Char.ofNat 12)
  else if c = 'n' then some '\n' else if c = 'r' then some '\r' else if c = 't' then some '\t'
  else none

/-- The character written by a `\u` escape whose four digits were read, joining a
    surrogate pair. -/
def readUnicodeEscape (n : Nat) (cs : List Char) : Except ReadError (Char × List Char) :=
  if 0xDC00 ≤ n ∧ n ≤ 0xDFFF then failAt .loneLeadingSurrogateInHexEscape cs
  else if 0xD800 ≤ n ∧ n ≤ 0xDBFF then
    match cs with
    | [] => failAt .eofWhileParsingString []
    | c :: rest =>
      if c ≠ '\\' then failAt .unexpectedEndOfHexEscape rest
      else match rest with
        | [] => failAt .eofWhileParsingString []
        | u :: more =>
          if u ≠ 'u' then failAt .unexpectedEndOfHexEscape more
          else match readHex4 more with
            | .error e => .error e
            | .ok (m, after) =>
              if 0xDC00 ≤ m ∧ m ≤ 0xDFFF then
                .ok (Char.ofNat ((n - 0xD800) * 0x400 + (m - 0xDC00) + 0x10000), after)
              else failAt .loneLeadingSurrogateInHexEscape after
  else .ok (Char.ofNat n, cs)

/-- Reads the rest of a string whose opening quote was taken; `acc` holds the characters
    read so far, last first. -/
def readStringFrom : Nat → List Char → List Char → Except ReadError (String × List Char)
  | 0, _, cs => failAt .eofWhileParsingString cs
  | _ + 1, _, [] => failAt .eofWhileParsingString []
  | fuel + 1, acc, c :: rest =>
    if c = '"' then .ok (String.ofList acc.reverse, rest)
    else if c = '\\' then
      match rest with
      | [] => failAt .eofWhileParsingString []
      | e :: more =>
        if e = 'u' then
          match readHex4 more with
          | .error err => .error err
          | .ok (n, after) =>
            match readUnicodeEscape n after with
            | .error err => .error err
            | .ok (ch, next) => readStringFrom fuel (ch :: acc) next
        else match simpleEscape e with
          | some ch => readStringFrom fuel (ch :: acc) more
          | none => failAt .invalidEscape more
    else if c.toNat < 0x20 then failAt .controlCharacterWhileParsingString rest
    else readStringFrom fuel (c :: acc) rest

/-- Reads a string whose opening quote was taken. -/
def readString (cs : List Char) : Reading String :=
  readStringFrom (cs.length + 1) [] cs

/-- Passes over the rest of a string whose opening quote was taken, checking its escapes
    but not whether they pair up. -/
def skipStringFrom : Nat → List Char → Except ReadError (List Char)
  | 0, cs => failAt .eofWhileParsingString cs
  | _ + 1, [] => failAt .eofWhileParsingString []
  | fuel + 1, c :: rest =>
    if c = '"' then .ok rest
    else if c = '\\' then
      match rest with
      | [] => failAt .eofWhileParsingString []
      | e :: more =>
        if e = 'u' then
          match readHex4 more with
          | .error err => .error err
          | .ok (_, after) => skipStringFrom fuel after
        else match simpleEscape e with
          | some _ => skipStringFrom fuel more
          | none => failAt .invalidEscape more
    else if c.toNat < 0x20 then failAt .controlCharacterWhileParsingString rest
    else skipStringFrom fuel rest

/-- Passes over a string whose opening quote was taken. -/
def skipString (cs : List Char) : Except ReadError (List Char) :=
  skipStringFrom (cs.length + 1) cs

/-! ## Numbers -/

/-- The largest 64-bit unsigned number. -/
def maxWord : Nat := Nat.pow 2 64 - 1

/-- The largest 32-bit signed number, the bound of a decimal exponent. -/
def maxExponent : Int := Int.pow 2 31 - 1

/-- Whether `acc · 10 + d` passes `bound`. -/
def passes (acc d bound : Nat) : Bool :=
  acc ≥ bound / 10 && (acc > bound / 10 || d > bound % 10)

/-- The nearest doubles to `10^0` through `10^308`. -/
def powersOfTen : Array Float :=
  ((List.range 309).map fun (i : Nat) => Tabula.Decimal.nearest false 1 (Int.ofNat i)).toArray

/-- The double nearest to `10^i`, for `i ≤ 308`. -/
def powerOfTen (i : Nat) : Float := powersOfTen.getD i 0

/-- A double from whole digits and a decimal exponent: the digits are rounded to a double,
    then scaled by a power of ten in one multiplication or division, in steps of `10^308`
    below that range. -/
def scaleDigits (positive : Bool) (digits : Nat) (exp10 : Int) (rest : List Char) :
    Except ReadError Float :=
  let start := Tabula.Decimal.nearest false digits 0
  let rec go : Nat → Float → Int → Except ReadError Float
    | 0, f, _ => .ok f
    | fuel + 1, f, e =>
      if e.natAbs ≤ 308 then
        if e ≥ 0 then
          let g := f * powerOfTen e.natAbs
          if g.isInf then failAt .numberOutOfRange rest else .ok g
        else .ok (f / powerOfTen e.natAbs)
      else if f == 0 then .ok f
      else if e ≥ 0 then failAt .numberOutOfRange rest
      else go fuel (f / powerOfTen 308) (e + 308)
  match go 8 start exp10 with
  | .ok f => .ok (if positive then f else -f)
  | .error e => .error e

/-- Clamps an exponent to the 32-bit signed range. -/
def clampExponent (e : Int) : Int := max (-(Int.pow 2 31)) (min maxExponent e)

/-- Takes the digits at the front. -/
def spanDigits (cs : List Char) : List Char × List Char :=
  (cs.takeWhile isDigit, cs.dropWhile isDigit)

/-- Reads the exponent after `e`, which was taken, and builds the double. -/
def readExponent (positive : Bool) (digits : Nat) (start : Int) (cs : List Char) :
    Reading Float :=
  let (positiveExp, cs) := match cs with
    | '+' :: rest => (true, rest)
    | '-' :: rest => (false, rest)
    | _ => (true, cs)
  match cs with
  | [] => failAt .eofWhileParsingValue []
  | c :: rest =>
    if !isDigit c then failAt .invalidNumber rest
    else
      let (more, after) := spanDigits rest
      -- the exponent's digits are read until one would pass the 32-bit bound
      let rec accumulate : List Char → Nat → Option Nat
        | [], acc => some acc
        | d :: ds, acc =>
          if passes acc (digitValue d) maxExponent.toNat then none
          else accumulate ds (acc * 10 + digitValue d)
      match accumulate more (digitValue c) with
      | none =>
        if digits ≠ 0 && positiveExp then failAt .numberOutOfRange after
        else .ok (if positive then 0.0 else -0.0, after)
      | some e =>
        let final := clampExponent (if positiveExp then start + e else start - e)
        match scaleDigits positive digits final after with
        | .ok f => .ok (f, after)
        | .error err => .error err

/-- Reads the fraction after the point, which was taken, and builds the double; digits
    that would overflow the whole number are passed over. -/
def readFraction (positive : Bool) (digits : Nat) (before : Int) (cs : List Char) :
    Reading Float :=
  let (frac, after) := spanDigits cs
  let rec accumulate : List Char → Nat → Int → Nat × Int
    | [], acc, e => (acc, e)
    | d :: ds, acc, e =>
      if passes acc (digitValue d) maxWord then (acc, e)
      else accumulate ds (acc * 10 + digitValue d) (e - 1)
  if frac.isEmpty then
    match after with
    | [] => failAt .eofWhileParsingValue []
    | _ => failAt .invalidNumber after
  else
    let (digits, e) := accumulate frac digits before
    match after with
    | c :: rest =>
      if c = 'e' ∨ c = 'E' then readExponent positive digits e rest
      else match scaleDigits positive digits e after with
        | .ok f => .ok (f, after)
        | .error err => .error err
    | [] =>
      match scaleDigits positive digits e [] with
      | .ok f => .ok (f, [])
      | .error err => .error err

/-- What follows the whole digits of a number: a fraction, an exponent or nothing. -/
def readNumberTail (positive : Bool) (digits : Nat) (exp10 : Int) (whole : Bool)
    (cs : List Char) : Reading Number :=
  let asFloat := fun (r : Reading Float) => match r with
    | .ok (f, rest) => Except.ok (Number.float f, rest)
    | .error e => .error e
  match cs with
  | '.' :: rest => asFloat (readFraction positive digits exp10 rest)
  | 'e' :: rest => asFloat (readExponent positive digits exp10 rest)
  | 'E' :: rest => asFloat (readExponent positive digits exp10 rest)
  | _ =>
    if !whole then asFloat (match scaleDigits positive digits exp10 cs with
      | .ok f => .ok (f, cs)
      | .error e => .error e)
    else if positive then .ok (.int digits, cs)
    else if digits = 0 ∨ digits > Nat.pow 2 63 then
      .ok (.float (-(Tabula.Decimal.nearest false digits 0)), cs)
    else .ok (.int (-(digits : Int)), cs)

/-- Reads a number whose sign, if any, was taken. -/
def readNumber (positive : Bool) (cs : List Char) : Reading Number :=
  match cs with
  | [] => failAt .eofWhileParsingValue []
  | c :: rest =>
    if c = '0' then
      match rest with
      | d :: _ => if isDigit d then failAt .invalidNumber rest
        else readNumberTail positive 0 0 true rest
      | [] => readNumberTail positive 0 0 true rest
    else if isDigit c then
      let (more, after) := spanDigits rest
      -- digits are gathered while they fit 64 bits; the others only raise the exponent
      let rec accumulate : List Char → Nat → Nat × Nat
        | [], acc => (acc, 0)
        | d :: ds, acc =>
          if passes acc (digitValue d) maxWord then (acc, ds.length + 1)
          else accumulate ds (acc * 10 + digitValue d)
      let (digits, extra) := accumulate more (digitValue c)
      readNumberTail positive digits extra (extra == 0) after
    else failAt .invalidNumber rest

/-- Passes over a number, checking its grammar only. -/
def skipNumber (cs : List Char) : Except ReadError (List Char) :=
  let cs := match cs with
    | '-' :: rest => rest
    | _ => cs
  let afterWhole : Except ReadError (List Char) := match cs with
    | '0' :: rest =>
      match rest with
      | d :: _ => if isDigit d then failAt .invalidNumber rest else .ok rest
      | [] => .ok rest
    | c :: rest => if isDigit c then .ok (rest.dropWhile isDigit) else failAt .invalidNumber rest
    | [] => failAt .invalidNumber []
  let exponent : List Char → Except ReadError (List Char) := fun cs =>
    let cs := match cs with
      | '+' :: rest => rest
      | '-' :: rest => rest
      | _ => cs
    match cs with
    | c :: rest => if isDigit c then .ok (rest.dropWhile isDigit) else failAt .invalidNumber rest
    | [] => failAt .invalidNumber []
  match afterWhole with
  | .error e => .error e
  | .ok cs =>
    match cs with
    | '.' :: rest =>
      let (frac, after) := spanDigits rest
      if frac.isEmpty then failAt .invalidNumber after
      else match after with
        | 'e' :: more => exponent more
        | 'E' :: more => exponent more
        | _ => .ok after
    | 'e' :: more => exponent more
    | 'E' :: more => exponent more
    | _ => .ok cs

/-! ## Values -/

/-- How deep arrays and objects may nest. -/
def depthLimit : Nat := 128

/-- The fault after an array's items, when the reader of the items stopped early. -/
def endArray (cs : List Char) : Except ReadError (List Char) :=
  match skipBlank cs with
  | ']' :: rest => .ok rest
  | ',' :: rest =>
    match skipBlank rest with
    | ']' :: more => failAt .trailingComma more
    | more => failAt .trailingCharacters more
  | [] => failAt .eofWhileParsingList []
  | more => failAt .expectedListCommaOrEnd more

/-- The close of an object after its members. -/
def endObject (cs : List Char) : Except ReadError (List Char) :=
  match skipBlank cs with
  | '}' :: rest => .ok rest
  | ',' :: more => failAt .trailingComma more
  | [] => failAt .eofWhileParsingObject []
  | more => failAt .trailingCharacters more

/-- Where the next item of an array starts: `none` at the closing bracket, which is left
    in place. -/
def nextItem (first : Bool) (cs : List Char) : Except ReadError (Option (List Char)) :=
  let cs := skipBlank cs
  match cs with
  | ']' :: _ => .ok none
  | ',' :: rest =>
    if first then .ok (some cs)
    else
      let r := skipBlank rest
      match r with
      | ']' :: _ => failAt .trailingComma r
      | [] => failAt .eofWhileParsingValue []
      | _ => .ok (some r)
  | [] => failAt .eofWhileParsingList []
  | _ => if first then .ok (some cs) else failAt .expectedListCommaOrEnd cs

/-- Where the next key of an object starts, at its opening quote: `none` at the closing
    brace, which is left in place. -/
def nextKey (first : Bool) (cs : List Char) : Except ReadError (Option (List Char)) :=
  let cs := skipBlank cs
  match cs with
  | '}' :: _ => .ok none
  | ',' :: rest =>
    if first then failAt .keyMustBeAString cs
    else
      let r := skipBlank rest
      match r with
      | '"' :: _ => .ok (some r)
      | '}' :: _ => failAt .trailingComma r
      | [] => failAt .eofWhileParsingValue []
      | _ => failAt .keyMustBeAString r
  | '"' :: _ => if first then .ok (some cs) else failAt .expectedObjectCommaOrEnd cs
  | [] => failAt .eofWhileParsingObject []
  | _ => if first then failAt .keyMustBeAString cs else failAt .expectedObjectCommaOrEnd cs

/-- Reads the key at an opening quote. -/
def readKey (cs : List Char) : Reading String :=
  readString (cs.drop 1)

/-- Takes the colon between a key and its value. -/
def readColon (cs : List Char) : Except ReadError (List Char) :=
  match skipBlank cs with
  | ':' :: rest => .ok rest
  | [] => failAt .eofWhileParsingObject []
  | more => failAt .expectedColon more

/-- One less level of nesting left, or the fault when none is. -/
def enter (depth : Nat) (cs : List Char) : Except ReadError Nat :=
  if depth ≤ 1 then failAt .recursionLimitExceeded cs else .ok (depth - 1)

mutual

/-- Reads one value, with `depth` levels of nesting left. -/
def readValueAt : Nat → Nat → List Char → Reading Value
  | 0, _, cs => failAt .eofWhileParsingValue cs
  | fuel + 1, depth, cs =>
    let cs := skipBlank cs
    match cs with
    | [] => failAt .eofWhileParsingValue []
    | c :: rest =>
      if c = 'n' then (readIdent ['u', 'l', 'l'] rest).map fun r => (.null, r)
      else if c = 't' then (readIdent ['r', 'u', 'e'] rest).map fun r => (.bool true, r)
      else if c = 'f' then (readIdent ['a', 'l', 's', 'e'] rest).map fun r => (.bool false, r)
      else if c = '-' then (readNumber false rest).map fun (n, r) => (.num n, r)
      else if isDigit c then (readNumber true cs).map fun (n, r) => (.num n, r)
      else if c = '"' then (readString rest).map fun (s, r) => (.str s, r)
      else if c = '[' then
        match enter depth cs with
        | .error e => .error e
        | .ok inner =>
          match readItemsAt fuel inner true [] rest with
          | .error e => .error e
          | .ok (items, after) => (endArray after).map fun r => (.arr items, r)
      else if c = '{' then
        match enter depth cs with
        | .error e => .error e
        | .ok inner =>
          match readMembersAt fuel inner true [] rest with
          | .error e => .error e
          | .ok (members, after) => (endObject after).map fun r => (.obj members, r)
      else failAt .expectedSomeValue cs

/-- Reads the items of an array up to its closing bracket, which is left in place. -/
def readItemsAt : Nat → Nat → Bool → List Value → List Char → Reading (List Value)
  | 0, _, _, _, cs => failAt .eofWhileParsingList cs
  | fuel + 1, depth, first, acc, cs =>
    match nextItem first cs with
    | .error e => .error e
    | .ok none => .ok (acc.reverse, cs)
    | .ok (some at_) =>
      match readValueAt fuel depth at_ with
      | .error e => .error e
      | .ok (v, rest) => readItemsAt fuel depth false (v :: acc) rest

/-- Reads the members of an object up to its closing brace, which is left in place; a
    later key replaces an earlier one. -/
def readMembersAt : Nat → Nat → Bool → List (String × Value) → List Char →
    Reading (List (String × Value))
  | 0, _, _, _, cs => failAt .eofWhileParsingObject cs
  | fuel + 1, depth, first, acc, cs =>
    match nextKey first cs with
    | .error e => .error e
    | .ok none => .ok (acc, cs)
    | .ok (some at_) =>
      match readKey at_ with
      | .error e => .error e
      | .ok (key, rest) =>
        match readColon rest with
        | .error e => .error e
        | .ok rest =>
          match readValueAt fuel depth rest with
          | .error e => .error e
          | .ok (v, rest) => readMembersAt fuel depth false (insertMember key v acc) rest

end

/-- Reads one value, with `depth` levels of nesting left. -/
def readValue (depth : Nat) (cs : List Char) : Reading Value :=
  readValueAt (cs.length + 1) depth cs

mutual

/-- Passes over a value that is not kept, checking its grammar only. -/
def skipValueAt : Nat → List Char → Except ReadError (List Char)
  | 0, cs => failAt .eofWhileParsingValue cs
  | fuel + 1, cs =>
    let cs := skipBlank cs
    match cs with
    | [] => failAt .eofWhileParsingValue []
    | c :: rest =>
      if c = 'n' then readIdent ['u', 'l', 'l'] rest
      else if c = 't' then readIdent ['r', 'u', 'e'] rest
      else if c = 'f' then readIdent ['a', 'l', 's', 'e'] rest
      else if c = '-' ∨ isDigit c then skipNumber cs
      else if c = '"' then skipString rest
      else if c = '[' then
        match skipBlank rest with
        | ']' :: after => .ok after
        | [] => failAt .eofWhileParsingList []
        | more => skipItemsAt fuel more
      else if c = '{' then
        match skipBlank rest with
        | '}' :: after => .ok after
        | [] => failAt .eofWhileParsingObject []
        | more => skipMembersAt fuel more
      else failAt .expectedSomeValue cs

/-- Passes over items of an array from the start of one, through the closing bracket. -/
def skipItemsAt : Nat → List Char → Except ReadError (List Char)
  | 0, cs => failAt .eofWhileParsingList cs
  | fuel + 1, cs =>
    match skipValueAt fuel cs with
    | .error e => .error e
    | .ok rest =>
      match skipBlank rest with
      | ',' :: more => skipItemsAt fuel more
      | ']' :: more => .ok more
      | [] => failAt .eofWhileParsingList []
      | more => failAt .expectedListCommaOrEnd more

/-- Passes over members of an object from the start of a key, through the closing brace. -/
def skipMembersAt : Nat → List Char → Except ReadError (List Char)
  | 0, cs => failAt .eofWhileParsingObject cs
  | fuel + 1, cs =>
    match skipBlank cs with
    | '"' :: rest =>
      match skipString rest with
      | .error e => .error e
      | .ok rest =>
        match readColon rest with
        | .error e => .error e
        | .ok rest =>
          match skipValueAt fuel rest with
          | .error e => .error e
          | .ok rest =>
            match skipBlank rest with
            | ',' :: more => skipMembersAt fuel more
            | '}' :: more => .ok more
            | [] => failAt .eofWhileParsingObject []
            | more => failAt .expectedObjectCommaOrEnd more
    | [] => failAt .eofWhileParsingValue []
    | more => failAt .keyMustBeAString more

end

/-- Passes over a value that is not kept. -/
def skipValue (cs : List Char) : Except ReadError (List Char) :=
  skipValueAt (cs.length + 1) cs

/-- Only blanks may follow the value of a text. -/
def readEnd (cs : List Char) : Except ReadError Unit :=
  match skipBlank cs with
  | [] => .ok ()
  | more => failAt .trailingCharacters more

/-- Reads a whole text holding one value. -/
def parse (text : String) : Except ReadError Value :=
  match readValue depthLimit text.toList with
  | .error e => .error e
  | .ok (v, rest) => (readEnd rest).map fun _ => v

/-- The line and column, both from one, of the place `left` characters before the end of a
    text. -/
def ReadError.place (e : ReadError) (text : String) : Nat × Nat :=
  let cs := text.toList
  let read := cs.take (cs.length - e.left)
  let line := (read.filter (· = '\n')).length + 1
  let column := (read.reverse.takeWhile (· ≠ '\n')).length
  (line, column)

/-- The fault with its place in the text, as `<words> at line L column C`. -/
def ReadError.describe (e : ReadError) (text : String) : String :=
  let (line, column) := e.place text
  e.fault.message ++ " at line " ++ toString line ++ " column " ++ toString column

end Tabula.Json
