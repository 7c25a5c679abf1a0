import Tabula.Store.Error
/-! # Files

    The calls a folder makes on a file system, as a class over the monad that carries
    them out: one instance answers from a file tree held in memory, another asks the
    operating system.  Every call answers with the system's reason when it fails.

    Paths are texts with `/` between components.  Joining a name to a directory puts one
    `/` between them unless the directory is empty or already ends in one; a name that
    starts with `/` replaces the directory.  The parent of a path drops its last
    component; the root has none. -/

namespace Tabula

/-- What a path names. -/
inductive FileKind where
  | file
  | dir
  | link
  deriving DecidableEq, BEq, Inhabited

/-- What a status call reports: the kind, the size in bytes and the time of the last
    change, in nanoseconds since the epoch. -/
structure FileStatus where
  kind : FileKind
  size : Nat
  modified : Nat
  deriving DecidableEq, BEq, Inhabited

/-- The calls on a file system.  `status` follows a symbolic link at the end of the path
    when asked to; `makeDir` and `createNew` never do, and fail on any entry that is
    there already; `rename` replaces a file at the target. -/
class FileSystem (m : Type → Type) where
  readText : String → m (Except OsError String)
  status : Bool → String → m (Except OsError FileStatus)
  makeDir : String → m (Except OsError Unit)
  createNew : String → String → m (Except OsError Unit)
  rename : String → String → m (Except OsError Unit)
  removeFile : String → m (Except OsError Unit)
  listDir : String → m (Except OsError (List String))
  /-- The current time, in nanoseconds since the epoch. -/
  now : m Nat

/-- A name joined to a directory. -/
def joinPath (dir name : String) : String :=
  if name.startsWith "/" then name
  else if dir.isEmpty || dir.endsWith "/" then dir ++ name
  else dir ++ "/" ++ name

/-- The pieces of a path between its slashes, empty ones included. -/
def pathPieces (p : String) : List String :=
  (p.toList.splitOn '/').map String.ofList

/-- The components of a path, without empty ones and without `.`. -/
def pathComponents (p : String) : List String :=
  (pathPieces p).filter fun c => !c.isEmpty && c != "."

/-- The last component of a path; none when that is `..`, or when the path has no
    component, as `/` and `.` have not. -/
def fileName (p : String) : Option String :=
  (pathComponents p).getLast?.filter (· != "..")

/-- The parent of a path: the text before its last component, without the slashes that
    end it.  A path that is only a root has no parent; one of a single relative component
    has the empty path as parent. -/
def parentPath (p : String) : Option String :=
  let cs := p.toList
  let body := (cs.reverse.dropWhile (· == '/')).reverse
  if body.isEmpty then (if cs.isEmpty then none else if cs.head? == some '/' then none else some "")
  else
    let before := (body.reverse.dropWhile (· != '/')).reverse
    let trimmed := (before.reverse.dropWhile (· == '/')).reverse
    if before.isEmpty then some ""
    else if trimmed.isEmpty then some "/"
    else some (String.ofList trimmed)

example : joinPath "." "backups" = "./backups" := by cbv
example : joinPath "sub/" "x" = "sub/x" := by cbv
example : parentPath "a/b" = some "a" := by cbv
example : parentPath "a" = some "" := by cbv
example : pathPieces "a//b/" = ["a", "", "b", ""] := by cbv
example : fileName "./backups/x.json" = some "x.json" := by cbv
example : fileName "foo.txt/." = some "foo.txt" := by cbv
example : fileName "foo.txt/.." = none := by cbv

end Tabula
