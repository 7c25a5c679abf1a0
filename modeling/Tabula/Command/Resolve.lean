import Tabula.Command.Path
import Tabula.Model.Document
import Tabula.Text.Lower
/-! # Resolving paths

    A path is resolved against the workspaces and the current navigation into a new
    navigation, or into nothing when it names no place.

    A token is positional when it is a nonempty run of ASCII digits; it then counts from
    one, leading zeros allowed, and zero or a number past `2^64 - 1` names nothing.  Any
    other token is a name, matched exactly or after full Unicode lowercasing of both
    sides.

    * An absolute path of one segment, while a workspace is current, first looks for a
      workspace of that name and otherwise for a table of the current workspace.
    * Otherwise an absolute path names a workspace, then a table in it, then row and
      column positions; a table that is not found leaves the workspace chosen.
    * Going up forgets one level per colon.
    * Going down needs a current workspace that exists.

    * `resolvePath` resolves a path;
    * `resolveGroupBy` finds the column a token names in a table's display sequence. -/

namespace Tabula

/-- Whether a token is a nonempty run of ASCII digits. -/
def isPositional (token : String) : Bool :=
  !token.isEmpty && token.all fun c => '0' ≤ c && c ≤ '9'

/-- The largest position a token may name. -/
def maxPosition : Nat := Nat.pow 2 64 - 1

/-- The position a token names: positional, and from `1` to `2^64 - 1`. -/
def positionOf? (token : String) : Option Nat :=
  if isPositional token then
    let n := token.foldl (fun acc c => acc * 10 + (c.toNat - '0'.toNat)) 0
    if 1 ≤ n ∧ n ≤ maxPosition then some n else none
  else none

/-- Whether a name matches a token: equal, or equal after lowercasing both. -/
def namesMatch (name token : String) : Bool :=
  name == token || Text.lower name == Text.lower token

/-- The item at a position counted from one. -/
def atPosition? {α : Type} (xs : List α) (n : Nat) : Option α :=
  if n = 0 then none else xs[n - 1]?

/-- The workspace a token names: by position, or the first of a matching name. -/
def findWorkspace? (ws : List Workspace) (token : String) : Option Workspace :=
  if isPositional token then (positionOf? token).bind (atPosition? ws)
  else ws.find? fun w => namesMatch w.name token

/-- The table of a workspace a token names: by position, or the first of a matching name. -/
def findTableIn? (w : Workspace) (token : String) : Option Table :=
  if isPositional token then (positionOf? token).bind (atPosition? w.tables)
  else w.tables.find? fun t => namesMatch t.name token

/-- Resolves an absolute path. -/
def resolveAbsolute (ws : List Workspace) (nav : Navigation) (segments : List String) :
    Option Navigation :=
  match segments, nav.workspace with
  | [token], some current =>
    match ws.find? fun w => namesMatch w.name token with
    | some w => some (nav.selectWorkspace (some w.key))
    | none => do
      let cw ← ws.find? (·.key == current)
      let t ← findTableIn? cw token
      some (nav.selectTable (some t.key))
  | [], _ => none
  | first :: rest, _ => do
    let w ← findWorkspace? ws first
    let next := nav.selectWorkspace (some w.key)
    match rest with
    | [] => some next
    | tableToken :: more =>
      match findTableIn? w tableToken with
      | none => some next
      | some t =>
        let next := next.selectTable (some t.key)
        let row := more[0]?.bind positionOf?
        let col := more[1]?.bind positionOf?
        some { next with cursor := ⟨row, col⟩ }

/-- Resolves a path that goes down from the current workspace. -/
def resolveRelative (ws : List Workspace) (nav : Navigation) (target : Target) :
    Option Navigation := do
  let current ← nav.workspace
  let w ← ws.find? (·.key == current)
  match target with
  | .one token =>
    if isPositional token then
      let r ← positionOf? token
      some { nav with cursor := { nav.cursor with row := some r } }
    else
      let t ← findTableIn? w token
      some (nav.selectTable (some t.key))
  | .two row col =>
    let r ← positionOf? row
    let c ← positionOf? col
    some { nav with cursor := ⟨some r, some c⟩ }
  | .columnOnly col =>
    let c ← positionOf? col
    some { nav with cursor := { nav.cursor with col := some c } }
  | .three table row col =>
    let t ← findTableIn? w table
    let next := nav.selectTable (some t.key)
    some { next with cursor := ⟨positionOf? row, positionOf? col⟩ }

/-- The navigation a path leads to, or none when it names no place. -/
def resolvePath (ws : List Workspace) (nav : Navigation) : Path → Option Navigation
  | .absolute segments => resolveAbsolute ws nav segments
  | .ascend levels => some (nav.upBy levels)
  | .descend target => resolveRelative ws nav target

/-- The column a token names in a table: by position in the display sequence, or the first
    there of a matching name. -/
def resolveGroupBy (t : Table) (token : String) : Option Key :=
  let token := Text.trim token
  let columns := t.ordered
  let column := if isPositional token then (positionOf? token).bind (atPosition? columns)
    else columns.find? fun c => namesMatch c.name token
  column.map (·.key)

end Tabula
