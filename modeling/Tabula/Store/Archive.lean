import Tabula.Store.Error
/-! # Backups

    A backup is a snapshot file in the folder's `backups` directory, named
    `backup-YYYYMMDD-HHMMSS.json` after the second it was made, with `-2`, `-3`, ... before
    the extension when that name is taken.  A backup name given by a user must be a plain
    JSON file name: a nonempty stem before `.json`, no leading dot, and no slash,
    backslash, colon or control character.

    Backups are listed newest first; among equal times a later sequence number comes first,
    then names descend.

    An automatic backup is due when none was made yet or when the interval has passed
    since the last one. -/

namespace Tabula

/-- The name of a backup file. -/
structure ArchiveName where
  text : String
  deriving DecidableEq, BEq

/-- The extension of backup files. -/
def archiveExtension : String := ".json"

/-- Whether a character is a control of the C0 or C1 set or delete. -/
def isControlChar (c : Char) : Bool :=
  c.toNat < 0x20 || (0x7F ≤ c.toNat && c.toNat < 0xA0)

/-- The stem of a name ending in `.json`. -/
def stripExtension? (s : String) : Option String :=
  let cs := s.toList
  let ext := archiveExtension.toList
  if ext.isSuffixOf cs then some (String.ofList (cs.take (cs.length - ext.length))) else none

/-- A text as a backup name: a nonempty stem before `.json`, no leading dot, and no
    slash, backslash, colon or control character. -/
def ArchiveName.parse (s : String) : Except StoreError ArchiveName :=
  let stem := (stripExtension? s).getD ""
  let plain := !s.toList.any fun c => c = '/' || c = '\\' || c = ':' || isControlChar c
  if !stem.isEmpty && !s.startsWith "." && plain then .ok ⟨s⟩
  else .error (.invalidArchiveId s)

/-- The name of the `n`-th backup of a stem: the stem alone for the first, then with
    `-2`, `-3`, ... before the extension. -/
def ArchiveName.numbered (stem : String) (n : Nat) : ArchiveName :=
  ⟨if n == 1 then stem ++ archiveExtension else stem ++ "-" ++ toString n ++ archiveExtension⟩

/-- The length of `backup-YYYYMMDD-HHMMSS`. -/
def timestampStemLength : Nat := 22

/-- Reads an unsigned 32-bit number, with an optional plus sign. -/
def parseWord32? (s : String) : Option Nat :=
  let digits := match s.toList with
    | '+' :: rest => rest
    | cs => cs
  if digits.isEmpty || !digits.all Char.isDigit then none
  else
    let n := digits.foldl (fun acc c => acc * 10 + (c.toNat - '0'.toNat)) 0
    if n < Nat.pow 2 32 then some n else none

/-- The characters that fill the first `n` bytes of a text, and the characters after them;
    none when no character ends after exactly `n` bytes. -/
def splitAtByte? (n : Nat) : List Char → Option (List Char × List Char)
  | [] => if n = 0 then some ([], []) else none
  | c :: cs =>
    if n = 0 then some ([], c :: cs)
    else if c.utf8Size ≤ n then (splitAtByte? (n - c.utf8Size) cs).map (Prod.map (c :: ·) id)
    else none

/-- The order key of a backup: its time stem and its sequence number, `1` without one.  The
    stem splits after its first 22 bytes, when a character ends there. -/
def ArchiveName.orderKey (a : ArchiveName) : String × Nat :=
  let stem := (stripExtension? a.text).getD a.text
  if stem.utf8ByteSize > timestampStemLength then
    match splitAtByte? timestampStemLength stem.toList with
    | some (base, '-' :: rest) =>
      match parseWord32? (String.ofList rest) with
      | some n => (String.ofList base, n)
      | none => (stem, 1)
    | _ => (stem, 1)
  else (stem, 1)

example : (ArchiveName.mk "backup-20010909-014640-3.json").orderKey =
    ("backup-20010909-014640", 3) := by decide +kernel
example : (ArchiveName.mk "éaaaaaaaaaaaaaaaaaaaa-5.json").orderKey =
    ("éaaaaaaaaaaaaaaaaaaaa", 5) := by
  decide +kernel

/-- When automatic backups are made: every `interval` milliseconds. -/
structure AutoBackup where
  interval : Nat
  last : Option Nat := none

/-- Ten minutes. -/
def AutoBackup.default : AutoBackup := ⟨600000, none⟩

/-- Whether a backup is due at a time; a time before the last backup counts as none
    elapsed. -/
def AutoBackup.isDue (a : AutoBackup) (now : Nat) : Bool :=
  match a.last with
  | none => true
  | some l => now - l ≥ a.interval

/-- Notes that a backup was made at a time. -/
def AutoBackup.record (a : AutoBackup) (at_ : Nat) : AutoBackup := { a with last := some at_ }

end Tabula
