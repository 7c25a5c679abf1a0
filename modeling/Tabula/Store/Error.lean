import Tabula.Model.Key
import Tabula.Json.Read
import Tabula.Text.Escaped
/-! # Storage errors

    What can go wrong when a folder is read or written: a file-system call fails, a file is
    not a snapshot, an id in it is no key, a backup name is not a plain JSON file name, a
    backup is missing, or a write would follow a symbolic link.

    File-system failures are given by the system's reason, written as the system words it
    with its error number.  Paths in messages are quoted with escapes. -/

namespace Tabula

/-- Why a file-system call failed. -/
inductive OsError where
  | noSuchFile
  | fileExists
  | notADirectory
  | isADirectory
  | noSuchDevice
  | symlinkLoop
  /-- A reason given in words only. -/
  | other (text : String)
  deriving DecidableEq, BEq

/-- The words for a file-system failure, with the error number. -/
def OsError.message : OsError → String
  | .noSuchFile => "No such file or directory (os error 2)"
  | .fileExists => "File exists (os error 17)"
  | .notADirectory => "Not a directory (os error 20)"
  | .isADirectory => "Is a directory (os error 21)"
  | .noSuchDevice => "No such device or address (os error 6)"
  | .symlinkLoop => "Too many levels of symbolic links (os error 40)"
  | .other text => text

/-- What went wrong reading or writing a folder. -/
inductive StoreError where
  | io (path : String) (reason : OsError)
  /-- A snapshot file that does not read; the fault is placed by line and column. -/
  | json (path : String) (fault : Json.Fault) (line column : Nat)
  | invalidId (field : String) (value : String) (reason : KeyError)
  | invalidArchiveId (value : String)
  | archiveNotFound (name : String)
  | symlinkRefused (path : String)

namespace StoreError

/-- The words for a storage error. -/
def message : StoreError → String
  | .io path reason => "io error at " ++ Text.quoted path ++ ": " ++ reason.message
  | .json path fault line column =>
    "json error at " ++ Text.quoted path ++ ": " ++ fault.message ++ " at line "
      ++ toString line ++ " column " ++ toString column
  | .invalidId field value reason =>
    "invalid id for " ++ field ++ ": " ++ Text.quoted value ++ ": " ++ reason.message
  | .invalidArchiveId value =>
    "invalid backup name " ++ Text.quoted value ++ " (expected a plain *.json file name)"
  | .archiveNotFound name => "backup not found: " ++ name
  | .symlinkRefused path => "refusing to write through symlink at " ++ Text.quoted path

/-- Whether the error wraps an underlying cause: a system failure, a reading fault or a key
    error. -/
def hasCause : StoreError → Bool
  | .io .. | .json .. | .invalidId .. => true
  | _ => false

end StoreError

end Tabula
