import Tabula.Text.Blank
/-! # Paths

    A path names a place.  It is written with colons between segments:

    * absolute, one to four segments from the top: `Work:Tasks:2:1`;
    * up, colons only, one level for each: `::`;
    * down from the current workspace, a colon and then one to three segments:
      `:token` (a row position or a table), `:row:col`, `:_:col` (a column alone, `_`
      standing for the row) and `:table:row:col`.

    Blanks around the whole path and around each segment are dropped.

    * `Path.parse` reads a path, or says why it is none;
    * `Path.display` writes the canonical text of a path;
    * `Path.isRelative`: every path but an absolute one. -/

namespace Tabula

/-- The target of a path that goes down from the current workspace. -/
inductive Target where
  /-- `:token`: a row position, or a table. -/
  | one (token : String)
  /-- `:row:col`. -/
  | two (row col : String)
  /-- `:_:col`: a column position alone. -/
  | columnOnly (col : String)
  /-- `:table:row:col`. -/
  | three (table row col : String)
  deriving DecidableEq, BEq

/-- A place, named from the top, by going up, or by going down. -/
inductive Path where
  | absolute (segments : List String)
  | ascend (levels : Nat)
  | descend (target : Target)
  deriving DecidableEq, BEq

/-- Why a text is no path. -/
inductive PathError where
  | empty
  | emptySegment
  | tooManySegments (most found : Nat)
  deriving DecidableEq, BEq

/-- The words for a path error. -/
def PathError.message : PathError → String
  | .empty => "path must not be empty"
  | .emptySegment => "path must not contain empty segments"
  | .tooManySegments most found =>
    "path has " ++ toString found ++ " segments (at most " ++ toString most ++ " allowed)"

/-- The segment written for "no row" in `:_:col`. -/
def placeholder : String := "_"

/-- The most segments of an absolute path. -/
def maxAbsoluteSegments : Nat := 4

/-- The most segments after the leading colon of a downward path. -/
def maxRelativeSegments : Nat := 3

namespace Path

/-- The segments of a text split at colons, each trimmed; an empty segment is an error,
    found before the count is checked. -/
def segmentsOf (cs : List Char) (most : Nat) : Except PathError (List String) :=
  let raw := cs.splitOn ':'
  let trimmed := raw.map fun seg => String.ofList (Text.trimChars seg)
  if trimmed.any (·.isEmpty) then .error .emptySegment
  else if trimmed.length > most then .error (.tooManySegments most trimmed.length)
  else .ok trimmed

/-- Reads a path. -/
def parse (input : String) : Except PathError Path :=
  let cs := Text.trimChars input.toList
  if cs.isEmpty then .error .empty
  else if cs.all (· = ':') then .ok (.ascend cs.length)
  else match cs with
    | ':' :: rest =>
      match segmentsOf rest maxRelativeSegments with
      | .error e => .error e
      | .ok [a] => .ok (.descend (.one a))
      | .ok [a, b] => .ok (.descend (if a = placeholder then .columnOnly b else .two a b))
      | .ok [a, b, c] => .ok (.descend (.three a b c))
      | .ok _ => .error .empty
    | _ => (segmentsOf cs maxAbsoluteSegments).map .absolute

/-- The canonical text of a path. -/
def display : Path → String
  | .absolute segments => ":".intercalate segments
  | .ascend levels => String.ofList (List.replicate levels ':')
  | .descend (.one a) => ":" ++ a
  | .descend (.two a b) => ":" ++ a ++ ":" ++ b
  | .descend (.columnOnly b) => ":" ++ placeholder ++ ":" ++ b
  | .descend (.three a b c) => ":" ++ a ++ ":" ++ b ++ ":" ++ c

/-- Every path but an absolute one is relative to the current place. -/
def isRelative : Path → Bool
  | .absolute _ => false
  | _ => true

end Path

end Tabula
