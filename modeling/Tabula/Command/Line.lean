import Tabula.Command.Action
/-! # Command lines

    A command line, blanks around it dropped, is the separator character, a command word
    and, after a blank, the rest.  The words are `s` or `select` and `v` or `view`, in any
    case, where the long form is tried first.  The separator must be the one the settings
    choose; anything else is the unknown action.

    `select` takes an optional path: none goes home, a path that does not read makes the
    whole line unknown.

    `view` takes `[path] (table|kanban) [column]`, or a group written `by:column`.  The view
    keyword is the last one before the first word starting with `by:`; the text before it
    is the path and the words after it name the column, unless a `by:` word gives the
    column as the rest of the line.  Without a view keyword the line shows the table view
    and nothing else. -/

namespace Tabula

namespace CommandLine

/-- Whether a character of the line matches a letter of a command word, ignoring case;
    the long s matches `s` as well. -/
def letterMatches (letter c : Char) : Bool :=
  c.toLower == letter || (letter = 's' && c.toNat = 0x17F)

/-- The rest of the line after a command word at its front, if the word stands there and
    is followed by the end of the line or a blank.  Returns the matched letters too. -/
def afterWord (word : List Char) (cs : List Char) : Option (List Char × List Char) :=
  if cs.length < word.length then none
  else
    let front := cs.take word.length
    let after := cs.drop word.length
    if (List.zipWith letterMatches word front).all id then
      match after with
      | [] => some (front, [])
      | c :: _ => if Text.isBlank c then some (front, after) else none
    else none

/-- The command words, in the order they are tried. -/
def commandWords : List (List Char) :=
  ["select".toList, "view".toList, "s".toList, "v".toList]

/-- The first command word at the front of the text after the separator: the letters as
    written and the trimmed rest of the line. -/
def splitWord (cs : List Char) : Option (List Char × List Char) :=
  commandWords.findSome? fun w => (afterWord w cs).map fun (front, after) =>
    (front, Text.trimChars after)

/-- Start and end positions of the words of a text: runs of characters that are not
    blank. -/
def wordSpans (cs : List Char) : List (Nat × Nat) :=
  go cs 0 none
where
  /-- `start` is where the word being read began. -/
  go : List Char → Nat → Option Nat → List (Nat × Nat)
    | [], i, some s => [(s, i)]
    | [], _, none => []
    | c :: rest, i, some s =>
      if Text.isBlank c then (s, i) :: go rest (i + 1) none else go rest (i + 1) (some s)
    | c :: rest, i, none =>
      if Text.isBlank c then go rest (i + 1) none else go rest (i + 1) (some i)

/-- The characters from position `a` to position `b`. -/
def slice (cs : List Char) (a b : Nat) : List Char := (cs.drop a).take (b - a)

/-- Whether a word starts with `by:`, in any ASCII case. -/
def isGroupWord (w : List Char) : Bool :=
  match w with
  | b :: y :: c :: _ => b.toLower == 'b' && y.toLower == 'y' && c == ':'
  | _ => false

/-- The last index in a list whose item satisfies a test. -/
def lastIndex? {α : Type} (p : α → Bool) (xs : List α) : Option Nat :=
  (xs.zipIdx.filter fun (x, _) => p x).getLast?.map (·.2)

/-- The action of the arguments of `select`. -/
def selectAction (rest : List Char) : Action :=
  if rest.isEmpty then .select none
  else match Path.parse (String.ofList rest) with
    | .ok p => .select (some p)
    | .error _ => .unknown

/-- The action of the arguments of `view`. -/
def viewAction (rest : List Char) : Action :=
  let spans := wordSpans rest
  let wordAt := fun (s : Nat × Nat) => slice rest s.1 s.2
  let groupIdx := spans.findIdx? fun s => isGroupWord (wordAt s)
  let head := match groupIdx with
    | some i => spans.take i
    | none => spans
  let byClause : Option String := groupIdx.bind fun i => (spans[i]?).map fun s =>
    String.ofList (Text.trimChars (rest.drop (s.1 + 3)))
  let isKeyword := fun (s : Nat × Nat) => (View.keyword? (String.ofList (wordAt s))).isSome
  match lastIndex? isKeyword head with
  | none => .changeView .table none none
  | some m =>
    match head[m]? with
    | none => .changeView .table none none
    | some modeSpan =>
      let view := (View.keyword? (String.ofList (wordAt modeSpan))).getD .table
      let after := head.drop (m + 1)
      let bare : Option String := match after.head?, after.getLast? with
        | some first, some last =>
          some (String.ofList (Text.trimChars (slice rest first.1 last.2)))
        | _, _ => none
      let groupBy := (byClause.orElse fun _ => bare).filter (!·.isEmpty)
      let pathText := Text.trimChars (rest.take modeSpan.1)
      if pathText.isEmpty then .changeView view none groupBy
      else match Path.parse (String.ofList pathText) with
        | .ok p => .changeView view (some p) groupBy
        | .error _ => .unknown

end CommandLine

open CommandLine in
/-- The action a command line asks for, given the separator in use. -/
def parseCommand (input : String) (sep : Separator) : Action :=
  match Text.trimChars input.toList with
  | c :: rest =>
    if Separator.ofChar? c |>.isNone then .unknown
    else match splitWord rest with
      | none => .unknown
      | some (letters, args) =>
        if c ≠ sep.char then .unknown
        else
          let word := String.ofList (letters.map Char.toLower)
          if word == "s" || word == "select" then selectAction args
          else if word == "v" || word == "view" then viewAction args
          else .unknown
  | [] => .unknown

end Tabula
