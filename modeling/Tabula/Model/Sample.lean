import Tabula.Model.Document
/-! # The sample document

    A small document for trying commands: workspace `Alpha` with the tables `Tasks`, `Bugs`
    and `Notes`, and workspace `Beta` with the table `Roadmap`.  `Tasks` has a text column
    and two select columns, and three rows of which the last has no status. -/

namespace Tabula

namespace Sample

/-- A column of the sample, without options. -/
def column (key name : String) (kind : ColumnKind) (order : Int) (options : List String := []) :
    Column :=
  ⟨⟨key⟩, name, kind, options, order⟩

/-- A row of the sample with text cells. -/
def row (key : String) (cells : List (String × String)) : Row :=
  cells.foldl (fun r (c, v) => r.set ⟨c⟩ (.str v)) (Row.empty ⟨key⟩)

/-- The table `Tasks`. -/
def tasks : Table :=
  { key := ⟨"t:tasks"⟩, name := "Tasks", widths := [],
    columns := [
      column "c:title" "Title" .text 0,
      column "c:status" "Status" .select 1 ["Todo", "Doing", "Done"],
      column "c:priority" "Priority" .select 2 ["Low", "High"]],
    rows := [
      row "r:1" [("c:title", "Write parser"), ("c:status", "Done")],
      row "r:2" [("c:title", "Write resolver"), ("c:status", "Doing")],
      row "r:3" [("c:title", "Ship it")]] }

end Sample

/-- The sample document, nothing selected. -/
def Document.sample : Document :=
  { workspaces := [
      ⟨⟨"w:alpha"⟩, "Alpha",
        [Sample.tasks, Table.empty ⟨"t:bugs"⟩ "Bugs", Table.empty ⟨"t:notes"⟩ "Notes"]⟩,
      ⟨⟨"w:beta"⟩, "Beta", [Table.empty ⟨"t:roadmap"⟩ "Roadmap"]⟩] }

/-- The sample document with workspace `Alpha` and table `Tasks` selected. -/
def Document.sampleAtTasks : Document :=
  Document.sample.withNav
    ((Document.sample.nav.selectWorkspace (some ⟨"w:alpha"⟩)).selectTable (some ⟨"t:tasks"⟩))

end Tabula
