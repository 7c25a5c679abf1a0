import Tabula.Model.Document
/-! # Location

    The place of the user in words: a label of four parts, workspace, table, row and
    column, with a dash for each unset part, and four breadcrumbs, each enabled when its
    part is set. -/

namespace Tabula

/-- One breadcrumb: its level, its text and whether its part is set. -/
structure Crumb where
  level : Level
  label : String
  enabled : Bool

/-- The mark of an unset part of the label. -/
def unsetMark : String := "–"

namespace Document

/-- The four parts of the place, joined by `" : "`. -/
def pathLabel (d : Document) : String :=
  let c := d.nav.cursor
  let ws := (d.currentWorkspace.map (·.name)).getD unsetMark
  let table := (d.currentTable.map (·.name)).getD unsetMark
  let row := (c.row.map toString).getD unsetMark
  let col := (c.col.map toString).getD unsetMark
  ws ++ " : " ++ table ++ " : " ++ row ++ " : " ++ col

/-- The four breadcrumbs of the place. -/
def crumbs (d : Document) : List Crumb :=
  let c := d.nav.cursor
  let ws := d.currentWorkspace.map (·.name)
  let table := d.currentTable.map (·.name)
  [ ⟨.workspace, ws.getD "(no ws)", ws.isSome⟩,
    ⟨.table, table.getD "(no table)", table.isSome⟩,
    ⟨.row, "Row: " ++ (c.row.map toString).getD "—", c.row.isSome⟩,
    ⟨.column, "Col: " ++ (c.col.map toString).getD "—", c.col.isSome⟩ ]

end Document

end Tabula
