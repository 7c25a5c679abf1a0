import Tabula.Json.Read
/-! # Reading JSON of a given shape

    A shape says which values a document may hold where: any value, a string, a boolean,
    a number of a given kind, `null` or a shape, an array or a string-keyed map of a shape,
    or a record with named members, some of which must be present.  Reading by a shape
    runs through the text once and stops at the first fault, so that a value of the wrong
    type is reported before a syntax error that follows it, and the other way round.

    A record is written as an object, or as an array of its members in order.  Members a
    record does not name are passed over, checking their grammar only; a member named
    twice is a fault.  The value read keeps only what the shape names.

    * `Shape.read` reads a value of a shape at the front of a text;
    * `Shape.parse` reads a whole text. -/

namespace Tabula.Json

/-- The form a document must have. -/
inductive Shape where
  /-- Any value. -/
  | any
  /-- A string. -/
  | string
  /-- `true` or `false`. -/
  | boolean
  /-- A whole number from `0` to `2^64 - 1`. -/
  | unsigned
  /-- A whole number from `-2^63` to `2^63 - 1`. -/
  | signed
  /-- Any number; its value is taken as a double where it is used. -/
  | double
  /-- `null` or a value of the shape. -/
  | nullable (s : Shape)
  /-- An array of values of the shape. -/
  | array (s : Shape)
  /-- An object with values of the shape, a later key replacing an earlier one. -/
  | map (s : Shape)
  /-- Named members, each with its shape and whether it must be present. -/
  | record (fields : List (String × Shape × Bool))

/-- The fault for a value of the wrong type at the front of `cs`: a scalar is read first,
    so that its own grammar faults come before the type fault. -/
def wrongTypeAt (cs : List Char) : Except ReadError α :=
  let cs := skipBlank cs
  match cs with
  | [] => failAt .eofWhileParsingValue []
  | c :: rest =>
    let after : Except ReadError (List Char) :=
      if c = 'n' then readIdent ['u', 'l', 'l'] rest
      else if c = 't' then readIdent ['r', 'u', 'e'] rest
      else if c = 'f' then readIdent ['a', 'l', 's', 'e'] rest
      else if c = '-' then (readNumber false rest).map (·.2)
      else if isDigit c then (readNumber true cs).map (·.2)
      else if c = '"' then (readString rest).map (·.2)
      else if c = '[' ∨ c = '{' then .ok cs
      else failAt .expectedSomeValue cs
    match after with
    | .error e => .error e
    | .ok _ => failAt .wrongType cs

/-- A number read where a shape of numbers is asked for, checked against its range. -/
def Shape.checkNumber (s : Shape) (n : Number) (at_ : List Char) : Except ReadError Value :=
  match s, n with
  | .unsigned, .int i => if i ≥ 0 then .ok (.num n) else failAt .wrongValue at_
  | .signed, .int i =>
    if i < Int.pow 2 63 then .ok (.num n) else failAt .wrongValue at_
  | .double, _ => .ok (.num n)
  | _, _ => failAt .wrongType at_

mutual

/-- Reads a value of a shape, with `depth` levels of nesting left. -/
def Shape.readAt : Nat → Nat → Shape → List Char → Reading Value
  | 0, _, _, cs => failAt .eofWhileParsingValue cs
  | fuel + 1, depth, s, cs =>
    match s with
    | .any => readValue depth cs
    | .string =>
      match skipBlank cs with
      | '"' :: rest => (readString rest).map fun (t, r) => (.str t, r)
      | other => wrongTypeAt other
    | .boolean =>
      match skipBlank cs with
      | 't' :: rest => (readIdent ['r', 'u', 'e'] rest).map fun r => (.bool true, r)
      | 'f' :: rest => (readIdent ['a', 'l', 's', 'e'] rest).map fun r => (.bool false, r)
      | other => wrongTypeAt other
    | .unsigned | .signed | .double =>
      let cs := skipBlank cs
      let number : Option (Reading Number) := match cs with
        | '-' :: rest => some (readNumber false rest)
        | c :: _ => if isDigit c then some (readNumber true cs) else none
        | [] => none
      match number with
      | none => wrongTypeAt cs
      | some (.error e) => .error e
      | some (.ok (n, rest)) => (s.checkNumber n cs).map fun v => (v, rest)
    | .nullable inner =>
      match skipBlank cs with
      | 'n' :: rest => (readIdent ['u', 'l', 'l'] rest).map fun r => (.null, r)
      | other => Shape.readAt fuel depth inner other
    | .array inner =>
      match skipBlank cs with
      | '[' :: rest =>
        match enter depth cs with
        | .error e => .error e
        | .ok d =>
          match Shape.readItems fuel d inner true [] rest with
          | .error e => .error e
          | .ok (items, after) => (endArray after).map fun r => (.arr items, r)
      | other => wrongTypeAt other
    | .map inner =>
      match skipBlank cs with
      | '{' :: rest =>
        match enter depth cs with
        | .error e => .error e
        | .ok d =>
          match Shape.readEntries fuel d inner true [] rest with
          | .error e => .error e
          | .ok (members, after) => (endObject after).map fun r => (.obj members, r)
      | other => wrongTypeAt other
    | .record fields =>
      match skipBlank cs with
      | '{' :: rest =>
        match enter depth cs with
        | .error e => .error e
        | .ok d =>
          match Shape.readFields fuel d fields true [] rest with
          | .error e => .error e
          | .ok (members, after) =>
            match fields.find? (fun (name, _, needed) => needed && (members.lookup name).isNone) with
            | some (name, _, _) => failAt (.missingField name) after
            | none => (endObject after).map fun r => (.obj members, r)
      | '[' :: rest =>
        match enter depth cs with
        | .error e => .error e
        | .ok d =>
          match Shape.readPositional fuel d fields true [] rest with
          | .error e => .error e
          | .ok (members, after) => (endArray after).map fun r => (.obj members, r)
      | other => wrongTypeAt other

/-- Reads the items of an array of a shape up to the closing bracket, left in place. -/
def Shape.readItems : Nat → Nat → Shape → Bool → List Value → List Char → Reading (List Value)
  | 0, _, _, _, _, cs => failAt .eofWhileParsingList cs
  | fuel + 1, depth, s, first, acc, cs =>
    match nextItem first cs with
    | .error e => .error e
    | .ok none => .ok (acc.reverse, cs)
    | .ok (some at_) =>
      match Shape.readAt fuel depth s at_ with
      | .error e => .error e
      | .ok (v, rest) => Shape.readItems fuel depth s false (v :: acc) rest

/-- Reads the entries of a map of a shape up to the closing brace, left in place. -/
def Shape.readEntries : Nat → Nat → Shape → Bool → List (String × Value) → List Char →
    Reading (List (String × Value))
  | 0, _, _, _, _, cs => failAt .eofWhileParsingObject cs
  | fuel + 1, depth, s, first, acc, cs =>
    match nextKey first cs with
    | .error e => .error e
    | .ok none => .ok (acc, cs)
    | .ok (some at_) =>
      match readKey at_ with
      | .error e => .error e
      | .ok (key, rest) =>
        match readColon rest with
        | .error e => .error e
        | .ok rest =>
          match Shape.readAt fuel depth s rest with
          | .error e => .error e
          | .ok (v, rest) => Shape.readEntries fuel depth s false (insertMember key v acc) rest

/-- Reads the members of a record written as an object, up to the closing brace, left in
    place. -/
def Shape.readFields : Nat → Nat → List (String × Shape × Bool) → Bool →
    List (String × Value) → List Char → Reading (List (String × Value))
  | 0, _, _, _, _, cs => failAt .eofWhileParsingObject cs
  | fuel + 1, depth, fields, first, acc, cs =>
    match nextKey first cs with
    | .error e => .error e
    | .ok none => .ok (acc, cs)
    | .ok (some at_) =>
      match readKey at_ with
      | .error e => .error e
      | .ok (key, rest) =>
        match fields.find? (fun (name, _, _) => name == key) with
        | some (_, s, _) =>
          if (acc.lookup key).isSome then failAt (.duplicateField key) rest
          else
            match readColon rest with
            | .error e => .error e
            | .ok rest =>
              match Shape.readAt fuel depth s rest with
              | .error e => .error e
              | .ok (v, rest) => Shape.readFields fuel depth fields false (insertMember key v acc) rest
        | none =>
          match readColon rest with
          | .error e => .error e
          | .ok rest =>
            match skipValue rest with
            | .error e => .error e
            | .ok rest => Shape.readFields fuel depth fields false acc rest

/-- Reads the members of a record written as an array, one item per member in order;
    the items end at the closing bracket, left in place, and a member that must be
    present and has no item is a fault. -/
def Shape.readPositional : Nat → Nat → List (String × Shape × Bool) → Bool →
    List (String × Value) → List Char → Reading (List (String × Value))
  | 0, _, _, _, _, cs => failAt .eofWhileParsingList cs
  | _ + 1, _, [], _, acc, cs => .ok (acc, cs)
  | fuel + 1, depth, (name, s, needed) :: more, first, acc, cs =>
    match nextItem first cs with
    | .error e => .error e
    | .ok none =>
      if needed then failAt .tooShort cs
      else Shape.readPositional fuel depth more first acc cs
    | .ok (some at_) =>
      match Shape.readAt fuel depth s at_ with
      | .error e => .error e
      | .ok (v, rest) => Shape.readPositional fuel depth more false (insertMember name v acc) rest

end

/-- Reads a value of a shape at the front of a text. -/
def Shape.read (s : Shape) (cs : List Char) : Reading Value :=
  Shape.readAt (2 * cs.length + 2) depthLimit s cs

/-- Reads a whole text holding a value of a shape. -/
def Shape.parse (s : Shape) (text : String) : Except ReadError Value :=
  match s.read text.toList with
  | .error e => .error e
  | .ok (v, rest) => (readEnd rest).map fun _ => v

end Tabula.Json
