import Tabula.Command.Edit
import Tabula.Command.Resolve
/-! # Executing actions

    An action turns a document into the next one.  Going to a path that names no place
    changes nothing; a refused edit changes nothing; the unknown action changes nothing.
    Changing the view goes to the path first, then shows the view, and a kanban view
    groups by the column the token names in the table that is then current, if it names
    one.

    * `Document.execute` runs one action;
    * `Document.run` runs a list of them in order. -/

namespace Tabula

namespace Document

/-- Goes to a path, when it names a place. -/
def navigate (d : Document) (p : Path) : Document :=
  match resolvePath d.workspaces d.nav p with
  | some n => d.withNav n
  | none => d

/-- The document after an action. -/
def execute (d : Document) : Action → Document
  | .select none => d.withNav d.nav.home
  | .select (some p) => d.navigate p
  | .changeView v p g =>
    let d := match p with
      | some p => d.navigate p
      | none => d
    let d := d.withNav { d.nav with view := v }
    if v == .kanban then
      match g, d.currentTable with
      | some token, some t =>
        match resolveGroupBy t token with
        | some c => d.withNav { d.nav with groupBy := some c }
        | none => d
      | _, _ => d
    else d
  | .edit e =>
    match d.applyEdit e with
    | .ok next => next
    | .error _ => d
  | .unknown => d

/-- The document after a list of actions, in order. -/
def run (d : Document) (actions : List Action) : Document :=
  actions.foldl execute d

end Document

end Tabula
