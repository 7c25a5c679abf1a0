import Tabula.Model.Document
/-! # Fresh things

    New workspaces, tables, columns and rows get keys no one chose: each is drawn from a
    supply, written as a random-style UUID of version 4 (`xxxxxxxx-xxxx-4xxx-8xxx-xxxxxxxxxxxx`)
    whose 122 free bits count up from the supply's start.  Keys of one supply never repeat.

    * a default table is named as asked, with the columns `Title` (text), `Status` (select of
      `Todo`, `Doing`, `Done`) and `Priority` (select of `Low`, `Med`, `High`) and one row,
      `Sample task`, to do, of medium priority;
    * a default workspace holds one default table, `Tasks`;
    * the first document of a folder holds one default workspace, `My Workspace`, with
      nothing selected;
    * the demo document has `Work`, whose `Tasks` has five more rows and which also holds an
      empty default table `Bugs`, and `Home`; it starts at `Work` and its `Tasks`. -/

namespace Tabula

/-- Where fresh keys come from: the count of the next one. -/
structure KeySupply where
  next : Nat := 0

/-- Computations that draw fresh keys. -/
abbrev Fresh := StateM KeySupply

/-- The lowercase hexadecimal digits of a number, padded with zeros to a width. -/
def hexPadded (width n : Nat) : String :=
  let digits := Nat.toDigits 16 n
  String.ofList (List.replicate (width - digits.length) '0' ++ digits)

/-- The UUID of version 4 and variant 1 whose free bits hold a number. -/
def uuidOf (n : Nat) : String :=
  let node := n % Nat.pow 2 48
  let clockSeq := n / Nat.pow 2 48 % Nat.pow 2 14
  let high := n / Nat.pow 2 62 % Nat.pow 2 12
  let mid := n / Nat.pow 2 74 % Nat.pow 2 16
  let low := n / Nat.pow 2 90 % Nat.pow 2 32
  hexPadded 8 low ++ "-" ++ hexPadded 4 mid ++ "-4" ++ hexPadded 3 high ++ "-"
    ++ hexPadded 4 (0x8000 + clockSeq) ++ "-" ++ hexPadded 12 node

/-- Draws a fresh key. -/
def freshKey : Fresh Key :=
  modifyGet fun s => (⟨uuidOf s.next⟩, { s with next := s.next + 1 })

/-- A new empty row. -/
def newRow : Fresh Row := do
  return Row.empty (← freshKey)

/-- A new column; only a select column keeps its options. -/
def newColumn (name : String) (kind : ColumnKind) (options : List String) (order : Int) :
    Fresh Column := do
  return ⟨← freshKey, name, kind, if kind == .select then options else [], order⟩

/-- A new table with the default columns and one sample row. -/
def defaultTable (name : String) : Fresh Table := do
  let key ← freshKey
  let title ← newColumn "Title" .text [] 0
  let status ← newColumn "Status" .select ["Todo", "Doing", "Done"] 1
  let priority ← newColumn "Priority" .select ["Low", "Med", "High"] 2
  let row ← newRow
  let row := ((row.set title.key (.str "Sample task")).set status.key (.str "Todo")).set
    priority.key (.str "Med")
  return ⟨key, name, [title, status, priority], [row], []⟩

/-- A new workspace holding one default table, `Tasks`. -/
def defaultWorkspace (name : String) : Fresh Workspace := do
  let key ← freshKey
  return ⟨key, name, [← defaultTable "Tasks"]⟩

/-- The first document of a folder. -/
def initialDocument : Fresh Document := do
  return { workspaces := [← defaultWorkspace "My Workspace"] }

/-- The tasks of the demo: title, status and priority; an empty text is no value. -/
def demoTasks : List (String × String × String) :=
  [("Draft the release notes", "Doing", "High"),
   ("Review open pull requests", "Todo", "Med"),
   ("Triage bug reports", "Todo", "High"),
   ("Update dependencies", "Done", "Low"),
   ("Plan the next sprint", "", "Med")]

/-- A row of the demo, its texts stored in the columns in order. -/
def demoRow (columns : List Key) (task : String × String × String) : Fresh Row := do
  let row ← newRow
  let (title, status, priority) := task
  return (columns.zip [title, status, priority]).foldl
    (fun r (c, v) => if v.isEmpty then r else r.set c (.str v)) row

/-- The demo document. -/
def demoDocument : Fresh Document := do
  let work ← defaultWorkspace "Work"
  let work ← match work.tables with
    | tasks :: rest =>
      let columns := tasks.ordered.map (·.key)
      let rows ← demoTasks.mapM (demoRow columns)
      pure { work with tables := { tasks with rows := tasks.rows ++ rows } :: rest }
    | [] => pure work
  let work := { work with tables := work.tables ++ [← defaultTable "Bugs"] }
  let home ← defaultWorkspace "Home"
  let nav := ({} : Navigation).selectWorkspace (some work.key)
  let nav := nav.selectTable (work.tables.head?.map (·.key))
  return { workspaces := [work, home], nav := nav }

end Tabula
