import Tabula.Cli.Options
import Tabula.Store.Folder
import Tabula.Model.Fresh
import Tabula.Command.Execute
import Tabula.Command.Line
import Tabula.Query.Location
import Tabula.Text.Escaped
/-! # Running the program

    One run reads its options and then works on the folder, or on the demo document,
    through the calls of `FileSystem`:

    * `--exec` loads the folder's document (a first one when there is none), runs each
      command in order, saves, and prints where the user ends up; a command that does
      not parse stops the run;
    * `--backup` loads likewise, writes a backup and prints its name;
    * `--list-backups` prints each backup with its size;
    * `--restore` makes a backup the snapshot and prints where it leaves the user;
    * the interactive screen needs a terminal, and none is attached to a run here: after
      the folder is loaded, the run stops with the system's "no such device" error.

    Refused options print the usage text and end with status 2; any other failure prints
    `tablane: ` and the reason, and ends with status 1. -/

namespace Tabula

/-- What a run leaves: its exit status and what it wrote to the two output streams. -/
structure Outcome where
  status : Nat
  stdout : String
  stderr : String
  deriving DecidableEq, BEq

/-- Why a run stops. -/
inductive RunError where
  | store (e : StoreError)
  | unknownCommand (command : String)
  | noTerminal

/-- The words for a run error. -/
def RunError.message : RunError → String
  | .store e => e.message
  | .unknownCommand c => "unknown command: " ++ Text.quoted c
  | .noTerminal => OsError.noSuchDevice.message

/-- Runs commands in order on a document; a command that does not parse stops. -/
def runCommands (commands : List String) (start : Document) : Except RunError Document :=
  commands.foldlM (fun d c =>
    match parseCommand c d.settings.separator with
    | .unknown => .error (.unknownCommand c)
    | a => .ok (d.execute a)) start

variable {m : Type → Type} [Monad m] [FileSystem m]

/-- A folder operation whose failure stops the run. -/
def storeStep {α : Type} (x : ExceptT StoreError m α) : ExceptT RunError m α :=
  ExceptT.adapt RunError.store x

/-- What a run with accepted options writes to standard output. -/
def perform (o : Options) (supply : KeySupply) : ExceptT RunError m String := do
  if o.demo then
    match o.mode with
    | .exec commands =>
      let d ← liftExcept (runCommands commands (demoDocument.run supply).1)
      return d.pathLabel ++ "\n"
    | _ => throw .noTerminal
  else
    let f : Folder := ⟨o.dir.getD "."⟩
    let first := (initialDocument.run supply).1
    match o.mode with
    | .interactive =>
      let _ ← storeStep (f.loadOr first : ExceptT StoreError m Document)
      throw .noTerminal
    | .backup =>
      let d ← storeStep (f.loadOr first : ExceptT StoreError m Document)
      let info ← storeStep (f.createArchive d : ExceptT StoreError m ArchiveInfo)
      return info.name.text ++ "\n"
    | .listBackups =>
      let infos ← storeStep (f.list : ExceptT StoreError m (List ArchiveInfo))
      return String.join (infos.map fun i => i.name.text ++ "\t" ++ toString i.size ++ " bytes\n")
    | .restore name =>
      let a ← storeStep (liftExcept (ArchiveName.parse name) : ExceptT StoreError m ArchiveName)
      let d ← storeStep (f.restore a : ExceptT StoreError m Document)
      return "restored " ++ a.text ++ ": " ++ d.pathLabel ++ "\n"
    | .exec commands =>
      let d ← storeStep (f.loadOr first : ExceptT StoreError m Document)
      let d ← liftExcept (runCommands commands d)
      storeStep (f.save d : ExceptT StoreError m Unit)
      return d.pathLabel ++ "\n"

/-- One run of the program under a name, with its arguments and a key supply. -/
def runProgram (program : String) (args : List String) (supply : KeySupply) : m Outcome := do
  match Options.parse args with
  | none => return ⟨2, "", usage program ++ "\n"⟩
  | some o =>
    match ← (perform o supply : ExceptT RunError m String).run with
    | .ok out => return ⟨0, out, ""⟩
    | .error e => return ⟨1, "", "tablane: " ++ e.message ++ "\n"⟩

end Tabula
