import Std.Time.DateTime.Timestamp
import Tabula.Cli.Run
/-! # The command line

    The program run against the operating system: the calls of `FileSystem` go to the
    system, the clock is the system's wall clock, and fresh keys count up from the clock's
    nanoseconds at the start, so that two runs draw different keys.

    A failed call is known by its error number, which some calls report negated; the
    numbers the store tells apart get their own reasons, and any other is kept in the
    system's words. -/

open System

namespace Tabula

/-- The error number of a failed call and the system's words for it, when it has them. -/
def ioReason : IO.Error → Option (UInt32 × String)
  | .alreadyExists _ code text | .otherError code text | .resourceBusy code text
  | .resourceVanished code text | .unsupportedOperation code text
  | .hardwareFault code text | .unsatisfiedConstraints code text
  | .illegalOperation code text | .protocolError code text | .timeExpired code text
  | .interrupted _ code text | .noFileOrDirectory _ code text
  | .invalidArgument _ code text | .permissionDenied _ code text
  | .resourceExhausted _ code text | .inappropriateType _ code text
  | .noSuchThing _ code text => some (code, text)
  | .unexpectedEof | .userError _ => none

/-- The reason of a failed system call. -/
def OsError.ofIO (e : IO.Error) : OsError :=
  match ioReason e with
  | some (code, text) =>
    -- some calls report the number negated, as a word
    let n := if code.toNat ≥ Nat.pow 2 31 then Nat.pow 2 32 - code.toNat else code.toNat
    match n with
    | 2 => .noSuchFile
    | 6 => .noSuchDevice
    | 17 => .fileExists
    | 20 => .notADirectory
    | 21 => .isADirectory
    | 40 => .symlinkLoop
    | n => .other (text ++ " (os error " ++ toString n ++ ")")
  | none => .other (toString e)

/-- Runs a system call, keeping its failure as a reason. -/
def attempt {α : Type} (call : IO α) : IO (Except OsError α) :=
  try
    let v ← call
    pure (.ok v)
  catch e => pure (.error (OsError.ofIO e))

/-- What the system reports of a path. -/
def statusOf (md : IO.FS.Metadata) : FileStatus :=
  { kind := match md.type with
      | .dir => .dir
      | .symlink => .link
      | _ => .file
    size := md.byteSize.toNat
    modified := (md.modified.sec * 1000000000 + md.modified.nsec.toNat).toNat }

/-- The calls of a folder, made on the operating system. -/
instance : FileSystem IO where
  readText p := attempt (IO.FS.readFile (FilePath.mk p))
  status follow p := attempt do
    let md ← if follow then (FilePath.mk p).metadata else (FilePath.mk p).symlinkMetadata
    pure (statusOf md)
  makeDir p := attempt (IO.FS.createDir (FilePath.mk p))
  createNew p text := attempt do
    let h ← IO.FS.Handle.mk (FilePath.mk p) .writeNew
    h.putStr text
    h.flush
  rename a b := attempt (IO.FS.rename (FilePath.mk a) (FilePath.mk b))
  removeFile p := attempt (IO.FS.removeFile (FilePath.mk p))
  listDir p := attempt do
    let entries ← (FilePath.mk p).readDir
    pure (entries.toList.map (·.fileName))
  now := do
    let t ← Std.Time.Timestamp.now
    pure t.toNanosecondsSinceUnixEpoch.val.toNat

end Tabula

open Tabula in
/-- Runs the program on its arguments and ends with its status. -/
def main (args : List String) : IO UInt32 := do
  let start ← (FileSystem.now : IO Nat)
  let out ← runProgram "tablane" args ⟨start⟩
  IO.print out.stdout
  IO.eprint out.stderr
  pure out.status.toUInt32
