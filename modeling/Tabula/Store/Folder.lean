import Tabula.Store.Files
import Tabula.Store.Snapshot
import Tabula.Store.Archive
import Tabula.Store.Calendar
/-! # Workspace folders

    A folder keeps one document in `workspace.todo.json` and its backups in `backups/`.
    Every operation is written once against the calls of `FileSystem`.

    * `Folder.load` reads the snapshot, none when the file is missing;
    * `Folder.save` makes the folder and writes the snapshot;
    * `Folder.loadOr` loads, or saves and returns a first document when there is none;
    * `Folder.createArchive` writes a backup named after the current second;
    * `Folder.scan` finds the backups, and `Folder.list` gives them newest first;
    * `Folder.fetch` reads a backup, and `Folder.restore` makes it the snapshot.

    A file is written whole or not at all: the text goes to a new temporary file beside
    it, which is then renamed over it.  A write never goes through a symbolic link: the
    snapshot or backup path being a link is refused, and so is a `backups` that is a
    link. -/

namespace Tabula

/-- The name of the snapshot file. -/
def snapshotFileName : String := "workspace.todo.json"

/-- The name of the backups directory. -/
def backupsDirName : String := "backups"

/-- What a listing says of a backup: its name, size in bytes and time of last change. -/
structure ArchiveInfo where
  name : ArchiveName
  size : Nat
  modified : Nat

/-- A folder, by its path. -/
structure Folder where
  root : String

namespace Folder

variable {m : Type → Type} [Monad m] [FileSystem m]

/-- The path of the snapshot file. -/
def snapshotPath (f : Folder) : String := joinPath f.root snapshotFileName

/-- The path of the backups directory. -/
def backupsDir (f : Folder) : String := joinPath f.root backupsDirName

/-- The path of a backup. -/
def archivePath (f : Folder) (a : ArchiveName) : String := joinPath f.backupsDir a.text

/-- A file-system call whose failure is reported at a path. -/
def atPath {α : Type} (path : String) (call : m (Except OsError α)) :
    ExceptT StoreError m α :=
  ExceptT.mk do return (← call).mapError (StoreError.io path)

/-- Whether a path names a directory, following links; a failed call is a no. -/
def isDir (p : String) : m Bool := do
  match ← FileSystem.status true p with
  | .ok s => pure (s.kind == .dir)
  | .error _ => pure false

/-- Whether a path names a file, following links; a failed call is a no. -/
def isFile (p : String) : m Bool := do
  match ← FileSystem.status true p with
  | .ok s => pure (s.kind == .file)
  | .error _ => pure false

/-- Whether something stands at a path, following links. -/
def exists? (p : String) : m Bool := do
  match ← FileSystem.status true p with
  | .ok _ => pure true
  | .error _ => pure false

/-- Makes a directory and the missing ones above it.  A directory that cannot be made
    because its parent is missing is made after the parent; one that fails otherwise is
    fine if a directory stands there.  The fuel bounds the levels climbed. -/
def makeDirAllWith : Nat → String → m (Except OsError Unit)
  | 0, _ => pure (.error (.other "failed to create whole tree"))
  | fuel + 1, p =>
    if p.isEmpty then pure (.ok ()) else do
    match ← FileSystem.makeDir p with
    | .ok () => pure (.ok ())
    | .error .noSuchFile =>
      match parentPath p with
      | none => pure (.error (.other "failed to create whole tree"))
      | some q =>
        match ← makeDirAllWith fuel q with
        | .error e => pure (.error e)
        | .ok () =>
          match ← FileSystem.makeDir p with
          | .ok () => pure (.ok ())
          | .error e => if ← isDir p then pure (.ok ()) else pure (.error e)
    | .error e => if ← isDir p then pure (.ok ()) else pure (.error e)

/-- Makes a directory and the missing ones above it. -/
def makeDirAll (p : String) : m (Except OsError Unit) :=
  makeDirAllWith (p.length + 2) p

/-- Writes a file whole through a temporary file in `dir` renamed over `path`; a path
    that is a symbolic link is refused, and so is one with no file name. -/
def writeAtomic (dir path text : String) : ExceptT StoreError m Unit := do
  match ← (FileSystem.status false path : m _) with
  | .ok s => if s.kind == .link then throw (.symlinkRefused path)
  | .error .noSuchFile => pure ()
  | .error e => throw (.io path e)
  let some name := fileName path | throw (.io path (.other "path has no file name"))
  let stamp ← (FileSystem.now : m Nat)
  let tmp := joinPath dir (".tablane.tmp." ++ name ++ "." ++ toString stamp)
  atPath tmp (FileSystem.createNew tmp text)
  match ← (FileSystem.rename tmp path : m _) with
  | .ok () => pure ()
  | .error e =>
    let _ ← (FileSystem.removeFile tmp : m _)
    throw (.io path e)

/-- Reads the snapshot; none when the file is missing. -/
def load (f : Folder) : ExceptT StoreError m (Option Document) := do
  let path := f.snapshotPath
  match ← (FileSystem.readText path : m _) with
  | .ok text => some <$> liftExcept (decodeSnapshot path text)
  | .error .noSuchFile => pure none
  | .error e => throw (.io path e)

/-- Makes the folder and writes the snapshot of a document. -/
def save (f : Folder) (d : Document) : ExceptT StoreError m Unit := do
  atPath f.root (makeDirAll f.root)
  writeAtomic f.root f.snapshotPath d.encode

/-- Loads the snapshot, or saves and returns `first` when there is none. -/
def loadOr (f : Folder) (first : Document) : ExceptT StoreError m Document := do
  match ← f.load with
  | some d => pure d
  | none =>
    f.save first
    pure first

/-- Makes a directory for backups: a link there is refused and so is anything that is
    not a directory. -/
def makeSafeDir (dir : String) : ExceptT StoreError m Unit := do
  match ← (FileSystem.status false dir : m _) with
  | .ok s =>
    if s.kind == .link then throw (.symlinkRefused dir)
    else if s.kind != .dir then throw (.io dir (.other "expected directory"))
  | .error .noSuchFile => atPath dir (makeDirAll dir)
  | .error e => throw (.io dir e)

/-- What a listing says of the backup at a path. -/
def archiveInfo (a : ArchiveName) (path : String) : ExceptT StoreError m ArchiveInfo := do
  let s ← atPath path (FileSystem.status true path)
  pure ⟨a, s.size, s.modified⟩

/-- The first backup name of a stem that is free: the stem, then the stem with `-2`,
    `-3`, ...  The fuel bounds the names tried. -/
def freeName (f : Folder) (stem : String) : Nat → Nat → m ArchiveName
  | 0, n => pure ⟨stem ++ "-" ++ toString n ++ archiveExtension⟩
  | fuel + 1, n => do
    let name := ArchiveName.numbered stem n
    if ← exists? (f.archivePath name) then freeName f stem fuel (n + 1) else pure name

/-- The stem of the backups made in a second since the epoch. -/
def backupStem (seconds : Int) : String := "backup-" ++ stampOfSeconds seconds

/-- Writes a backup of a document, named after the current second. -/
def createArchive (f : Folder) (d : Document) : ExceptT StoreError m ArchiveInfo := do
  makeSafeDir f.backupsDir
  let stamp ← (FileSystem.now : m Nat)
  let name ← (freeName f (backupStem (stamp / 1000000000 : Nat)) (Nat.pow 2 32) 1 : m _)
  let path := f.archivePath name
  writeAtomic f.backupsDir path d.encode
  archiveInfo name path

/-- Whether one backup is listed before another: newer first, then by order key,
    higher first. -/
def listedBefore (a b : ArchiveInfo) : Bool :=
  if a.modified != b.modified then a.modified > b.modified
  else
    let (sa, na) := a.name.orderKey
    let (sb, nb) := b.name.orderKey
    sa > sb || (sa == sb && na ≥ nb)

/-- The backups found: the plain JSON files of the backups directory, in the order the
    directory gives them; no directory means no backups. -/
def scan (f : Folder) : ExceptT StoreError m (List ArchiveInfo) := do
  let dir := f.backupsDir
  let names ← match ← (FileSystem.listDir dir : m _) with
    | .ok names => pure names
    | .error .noSuchFile => pure []
    | .error e => throw (.io dir e)
  names.filterMapM fun n => do
    match ArchiveName.parse n with
    | .error _ => pure none
    | .ok a =>
      let path := joinPath dir n
      if ← (isFile path : m Bool) then some <$> archiveInfo a path else pure none

/-- The backups, newest first. -/
def list (f : Folder) : ExceptT StoreError m (List ArchiveInfo) := do
  let infos ← f.scan
  pure (infos.mergeSort listedBefore)

/-- Reads a backup. -/
def fetch (f : Folder) (a : ArchiveName) : ExceptT StoreError m Document := do
  let path := f.archivePath a
  match ← (FileSystem.readText path : m _) with
  | .ok text => liftExcept (decodeSnapshot path text)
  | .error .noSuchFile => throw (.archiveNotFound a.text)
  | .error e => throw (.io path e)

/-- Makes a backup the snapshot. -/
def restore (f : Folder) (a : ArchiveName) : ExceptT StoreError m Document := do
  let d ← f.fetch a
  f.save d
  pure d

end Folder

end Tabula
