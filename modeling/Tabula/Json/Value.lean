/-! # JSON values

    A JSON document as the reader keeps it.  A number is whole when its text is an integer
    that fits 64 bits, signed or unsigned, and a double otherwise.  An object keeps its
    members sorted by key with each key once, the later of two equal keys winning, so that
    two objects with the same members are the same value.

    * `Value.insert` adds or replaces a member of an object;
    * `Value.get?` looks a member up;
    * `Value.beq` compares numbers as the program does: whole with whole, doubles by
      their values. -/

namespace Tabula.Json

/-- A JSON number: a whole number in the 64-bit range, or a double. -/
inductive Number where
  | int (n : Int)
  | float (x : Float)

/-- A JSON value, objects holding their members sorted by key. -/
inductive Value where
  | null
  | bool (b : Bool)
  | num (n : Number)
  | str (s : String)
  | arr (items : List Value)
  | obj (members : List (String × Value))

/-- Whole numbers are equal when they are the same number, doubles when their values are
    equal, and a whole number never equals a double. -/
def Number.beq : Number → Number → Bool
  | .int a, .int b => a == b
  | .float x, .float y => x == y
  | _, _ => false

instance : BEq Number := ⟨Number.beq⟩

/-- Structural equality of values, numbers compared by `Number.beq`. -/
def Value.beq : Value → Value → Bool
  | .null, .null => true
  | .bool a, .bool b => a == b
  | .num a, .num b => a == b
  | .str a, .str b => a == b
  | .arr xs, .arr ys => beqItems xs ys
  | .obj xs, .obj ys => beqMembers xs ys
  | _, _ => false
where
  /-- Equality of two lists of values, item by item. -/
  beqItems : List Value → List Value → Bool
    | [], [] => true
    | x :: xs, y :: ys => Value.beq x y && beqItems xs ys
    | _, _ => false
  /-- Equality of two member lists, key and value by key and value. -/
  beqMembers : List (String × Value) → List (String × Value) → Bool
    | [], [] => true
    | (k, x) :: xs, (l, y) :: ys => k == l && Value.beq x y && beqMembers xs ys
    | _, _ => false

instance : BEq Value := ⟨Value.beq⟩

/-- Adds a member to a sorted member list, replacing the value of an equal key. -/
def insertMember (key : String) (v : Value) : List (String × Value) → List (String × Value)
  | [] => [(key, v)]
  | (k, w) :: rest =>
    if key < k then (key, v) :: (k, w) :: rest
    else if key == k then (key, v) :: rest
    else (k, w) :: insertMember key v rest

/-- The sorted member list of the given pairs, a later key replacing an earlier one. -/
def membersOfList (pairs : List (String × Value)) : List (String × Value) :=
  pairs.foldl (fun acc (k, v) => insertMember k v acc) []

/-- The object with the given members, a later key replacing an earlier one. -/
def Value.object (pairs : List (String × Value)) : Value :=
  .obj (membersOfList pairs)

/-- The value of a member of an object. -/
def Value.get? (v : Value) (key : String) : Option Value :=
  match v with
  | .obj members => members.lookup key
  | _ => none

/-- Adds or replaces a member of an object; other values are left as they are. -/
def Value.insert (v : Value) (key : String) (w : Value) : Value :=
  match v with
  | .obj members => .obj (insertMember key w members)
  | other => other

/-- The text of a string value. -/
def Value.asString? : Value → Option String
  | .str s => some s
  | _ => none

/-- The items of an array value. -/
def Value.asArray? : Value → Option (List Value)
  | .arr items => some items
  | _ => none

/-- The members of an object value. -/
def Value.asObject? : Value → Option (List (String × Value))
  | .obj members => some members
  | _ => none

/-- The truth value of a boolean value. -/
def Value.asBool? : Value → Option Bool
  | .bool b => some b
  | _ => none

/-- The whole number of a numeric value that is whole. -/
def Value.asInt? : Value → Option Int
  | .num (.int n) => some n
  | _ => none

end Tabula.Json
