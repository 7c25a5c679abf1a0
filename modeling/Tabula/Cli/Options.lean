/-! # Command-line options

    The program is started on a folder (a directory given alone or after `--dir`, the
    current one otherwise) or on the built-in demo (`--demo`), and in one mode: the
    interactive screen (no mode), `--backup`, `--list-backups`, `--restore <name>`, or one
    or more `--exec <command>`, run in order.  `--durable-writes` asks for writes that
    reach the disk before the program goes on.

    Options are refused when a flag is given twice, a value is missing, an argument
    starts with `-` and is no option, two modes are given, or the demo is combined with a
    folder, with durable writes, or with a mode other than `--exec`.  Then the usage text
    is shown. -/

namespace Tabula

/-- What the program does. -/
inductive Mode where
  | interactive
  | backup
  | listBackups
  | restore (name : String)
  | exec (commands : List String)
  deriving DecidableEq, BEq

/-- The options of one run. -/
structure Options where
  demo : Bool := false
  dir : Option String := none
  durable : Bool := false
  mode : Mode := .interactive
  deriving DecidableEq, BEq

namespace Options

/-- Sets the mode, refused when one is set already. -/
def setMode (o : Options) (m : Mode) : Option Options :=
  if o.mode == .interactive then some { o with mode := m } else none

/-- Reads the arguments after the options read so far. -/
def parseFrom (o : Options) : List String → Option Options
  | [] => some o
  | "--demo" :: rest => if o.demo then none else parseFrom { o with demo := true } rest
  | "--dir" :: rest =>
    match rest with
    | d :: rest => if o.dir.isSome then none else parseFrom { o with dir := some d } rest
    | [] => none
  | "--durable-writes" :: rest =>
    if o.durable then none else parseFrom { o with durable := true } rest
  | "--backup" :: rest => (o.setMode .backup).bind (parseFrom · rest)
  | "--list-backups" :: rest => (o.setMode .listBackups).bind (parseFrom · rest)
  | "--restore" :: rest =>
    match rest with
    | name :: rest => (o.setMode (.restore name)).bind (parseFrom · rest)
    | [] => none
  | "--exec" :: rest =>
    match rest with
    | command :: rest =>
      match o.mode with
      | .exec commands => parseFrom { o with mode := .exec (commands ++ [command]) } rest
      | _ => (o.setMode (.exec [command])).bind (parseFrom · rest)
    | [] => none
  | arg :: rest =>
    if arg.startsWith "-" then none
    else if o.dir.isSome then none
    else parseFrom { o with dir := some arg } rest

/-- Reads the arguments of a run; none when they are refused. -/
def parse (args : List String) : Option Options := do
  let o ← parseFrom {} args
  if o.demo then
    if o.dir.isSome || o.durable then none
    else match o.mode with
      | .interactive | .exec _ => some o
      | _ => none
  else some o

end Options

/-- The usage text of a program name. -/
def usage (program : String) : String :=
  "Usage:\n  " ++ program ++ " [<dir>] [--durable-writes]\n  " ++ program
    ++ " [--dir <dir>] [--durable-writes]\n  " ++ program ++ " --demo\n  " ++ program
    ++ " [<dir>] --backup\n  " ++ program ++ " [<dir>] --list-backups\n  " ++ program
    ++ " [<dir>] --restore <backup-name>\n  " ++ program
    ++ " [<dir>] --exec <command> [--exec <command>...]\n  " ++ program
    ++ " --demo --exec <command> [--exec <command>...]\n\n"
    ++ "If dir/--dir is omitted, the current working directory is used.\n"
    ++ "--demo uses a built-in demo model, never touches disk and cannot be combined with dir/--dir.\n"
    ++ "--exec applies commands such as `/s Work:Tasks:2:1` in order, saves, and prints the final path.\n\n"
    ++ "--durable-writes opts into slower, best-effort durable persistence (fsync/sync where supported)."

end Tabula
