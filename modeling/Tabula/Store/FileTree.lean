import Tabula.Store.Files
/-! # File trees in memory

    A file tree holds files, directories and symbolic links by place, a place being the
    list of components from the top of the tree with no link among them.  A path is
    walked component by component: `.` stays, `..` goes up, a link is replaced by its
    target (from the top when the target starts with `/`, else from the link's
    directory), at most forty links on one walk.  The last component is followed only
    when the call asks for it.  A component that is missing fails the walk, unless it is
    the last; one that is a file fails it as not a directory.

    Each write takes its time from the tree's clock, which then moves on, so that later
    writes are newer.  The tree answers the calls of `FileSystem` in the state monad. -/

namespace Tabula

/-- What stands at a place of a tree. -/
inductive Node where
  | file (text : String) (modified : Nat)
  | dir
  | link (target : String)
  deriving DecidableEq, BEq, Inhabited

/-- A file tree: the nodes by place, the top being a directory without an entry, and
    the clock in nanoseconds since the epoch. -/
structure FileTree where
  nodes : List (List String × Node) := []
  clock : Nat := 0

namespace FileTree

/-- The node at a place. -/
def node? (t : FileTree) (place : List String) : Option Node :=
  if place.isEmpty then some .dir else (t.nodes.find? (·.1 == place)).map (·.2)

/-- Puts a node at a place, in the place of the one there. -/
def set (t : FileTree) (place : List String) (n : Node) : FileTree :=
  if t.nodes.any (·.1 == place) then
    { t with nodes := t.nodes.map fun e => if e.1 == place then (place, n) else e }
  else { t with nodes := t.nodes ++ [(place, n)] }

/-- Takes the node at a place away. -/
def erase (t : FileTree) (place : List String) : FileTree :=
  { t with nodes := t.nodes.filter (·.1 != place) }

/-- The clock moved on by one. -/
def tick (t : FileTree) : FileTree := { t with clock := t.clock + 1 }

/-- The longest chain of symbolic links one walk follows. -/
def maxLinks : Nat := 40

/-- Walks components from a place; the result is the place of the last component,
    whose node may be missing. -/
def walk (t : FileTree) (follow : Bool) (hops : Nat) (here : List String) :
    List String → Except OsError (List String)
  | [] => .ok here
  | c :: rest =>
    if c == "." then walk t follow hops here rest
    else if c == ".." then walk t follow hops here.dropLast rest
    else
      let p := here ++ [c]
      match t.node? p with
      | none => if rest.isEmpty then .ok p else .error .noSuchFile
      | some .dir => walk t follow hops p rest
      | some (.file ..) => if rest.isEmpty then .ok p else .error .notADirectory
      | some (.link target) =>
        if rest.isEmpty && !follow then .ok p
        else match hops with
          | 0 => .error .symlinkLoop
          | h + 1 =>
            walk t follow h (if target.startsWith "/" then [] else here)
              ((target.splitOn "/").filter (!·.isEmpty) ++ rest)
termination_by rest => (hops, rest.length)

/-- The place a path names. -/
def place? (t : FileTree) (follow : Bool) (p : String) : Except OsError (List String) :=
  t.walk follow maxLinks [] ((p.splitOn "/").filter (!·.isEmpty))

/-- The text of a file. -/
def readText (t : FileTree) (p : String) : Except OsError String := do
  match t.node? (← t.place? true p) with
  | some (.file text _) => .ok text
  | some .dir => .error .isADirectory
  | _ => .error .noSuchFile

/-- The status of what a path names. -/
def status (t : FileTree) (follow : Bool) (p : String) : Except OsError FileStatus := do
  match t.node? (← t.place? follow p) with
  | some (.file text modified) => .ok ⟨.file, text.utf8ByteSize, modified⟩
  | some .dir => .ok ⟨.dir, 4096, 0⟩
  | some (.link target) => .ok ⟨.link, target.utf8ByteSize, 0⟩
  | none => .error .noSuchFile

/-- A new directory. -/
def makeDir (t : FileTree) (p : String) : Except OsError FileTree := do
  let place ← t.place? false p
  match t.node? place with
  | some _ => .error .fileExists
  | none => .ok (t.set place .dir)

/-- A new file with a text, timed by the clock. -/
def createNew (t : FileTree) (p text : String) : Except OsError FileTree := do
  let place ← t.place? false p
  match t.node? place with
  | some _ => .error .fileExists
  | none => .ok (t.set place (.file text t.clock)).tick

/-- Moves what stands at one path to another, in the place of a file there. -/
def rename (t : FileTree) (src dst : String) : Except OsError FileTree := do
  let a ← t.place? false src
  let b ← t.place? false dst
  match t.node? a, t.node? b with
  | none, _ => .error .noSuchFile
  | some .dir, _ => .error (.other "Directory rename is not supported")
  | some _, some .dir => .error .isADirectory
  | some n, _ => if a == b then .ok t else .ok ((t.erase a).set b n)

/-- Removes a file or a link. -/
def removeFile (t : FileTree) (p : String) : Except OsError FileTree := do
  let place ← t.place? false p
  match t.node? place with
  | none => .error .noSuchFile
  | some .dir => .error .isADirectory
  | some _ => .ok (t.erase place)

/-- The names in a directory, in the order they were made. -/
def listDir (t : FileTree) (p : String) : Except OsError (List String) := do
  let place ← t.place? true p
  match t.node? place with
  | none => .error .noSuchFile
  | some .dir =>
    .ok (t.nodes.filterMap fun e =>
      if e.1.dropLast == place && e.1.length == place.length + 1 then e.1.getLast? else none)
  | some _ => .error .notADirectory

/-- Makes the missing directories of a list of components, without following links. -/
def ensureDirs (t : FileTree) (components : List String) : FileTree :=
  (List.range components.length).foldl (fun t i =>
    let place := components.take (i + 1)
    if (t.node? place).isSome then t else t.set place .dir) t

/-- Puts a node at a path, making the directories above it. -/
def put (t : FileTree) (p : String) (n : Node) : FileTree :=
  let cs := (p.splitOn "/").filter (!·.isEmpty)
  (t.ensureDirs cs.dropLast).set cs n

/-- Writes a file at a path, making the directories above it; the file gets the
    clock's time. -/
def putText (t : FileTree) (p text : String) : FileTree :=
  (t.put p (.file text t.clock)).tick

end FileTree

/-- The calls answered from a tree; a failed call leaves the tree as it was. -/
instance : FileSystem (StateM FileTree) where
  readText p := modifyGet fun t => (t.readText p, t)
  status follow p := modifyGet fun t => (t.status follow p, t)
  makeDir p := modifyGet fun t => match t.makeDir p with
    | .ok t' => (.ok (), t')
    | .error e => (.error e, t)
  createNew p text := modifyGet fun t => match t.createNew p text with
    | .ok t' => (.ok (), t')
    | .error e => (.error e, t)
  rename a b := modifyGet fun t => match t.rename a b with
    | .ok t' => (.ok (), t')
    | .error e => (.error e, t)
  removeFile p := modifyGet fun t => match t.removeFile p with
    | .ok t' => (.ok (), t')
    | .error e => (.error e, t)
  listDir p := modifyGet fun t => (t.listDir p, t)
  now := modifyGet fun t => (t.clock, t.tick)

end Tabula
