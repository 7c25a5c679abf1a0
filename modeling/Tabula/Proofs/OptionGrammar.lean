import Tabula.Cli.Options
/-! # The grammar of the command-line options

    The options are read left to right.  `--dir`, `--restore` and `--exec` take the
    argument after them whatever it is; every other argument stands alone.  So every line
    of arguments is a line of groups (`Options.Group`), or one followed by a flag that
    lacks its argument (`grouped`), and reading the options is reading one group after the
    other (`parseFrom_argsOf`).

    What the reading checks is said once over the whole line (`Options.Accepted`): no
    unknown option, `--demo` and `--durable-writes` at most once each, at most one
    folder, at most one mode with `--exec` repeatable, and the demo alone or with
    `--exec`.  What it gives is said once too (`Options.ofGroups`): the flags given, the
    folder given, and the mode given, the `--exec` commands in the order of the line.

    * `readGroup_ofGroups`: reading one more group after accepted ones is accepted exactly
      when the longer line passes the checks made while reading, and then gives what that
      line names; `foldlM_readGroup` carries this along the line;
    * `parse_argsOf_eq_some_iff`: a line of groups is accepted exactly when it passes the
      checks, and then its options are those it names;
    * `parse_argsOf_append_valueFlag`: a line that ends inside a flag is refused;
    * `parse_argsOf_perm`: reordering the groups changes nothing but the order of the
      `--exec` commands;
    * `parse_groups` puts the two together. -/

namespace Tabula

namespace Options

/-- The arguments that are options. -/
def optionWords : List String :=
  ["--demo", "--dir", "--durable-writes", "--backup", "--list-backups", "--restore", "--exec"]

/-- The options that take the argument after them. -/
def valueFlags : List String := ["--dir", "--restore", "--exec"]

/-- Every option starts with a dash. -/
theorem startsWith_dash_of_mem_optionWords {w : String} (h : w ∈ optionWords) :
    w.startsWith "-" = true := by
  simp only [optionWords, List.mem_cons, List.not_mem_nil, or_false] at h
  rcases h with rfl | rfl | rfl | rfl | rfl | rfl | rfl <;> simp

/-- One option of a command line as the options are read: a flag, a flag with the
    argument after it, or a word of its own, which is a folder when it does not start
    with a dash and an unknown option when it does. -/
inductive Group where
  | demo
  | durable
  | backup
  | listBackups
  | dir (path : String)
  | restore (name : String)
  | exec (command : String)
  | place (path : String) (plain : path.startsWith "-" = false)
  | unknown (arg : String) (dash : arg.startsWith "-" = true) (other : arg ∉ optionWords)
  deriving DecidableEq

namespace Group

/-- The arguments a group is written as. -/
def args : Group → List String
  | demo => ["--demo"]
  | durable => ["--durable-writes"]
  | backup => ["--backup"]
  | listBackups => ["--list-backups"]
  | dir p => ["--dir", p]
  | restore n => ["--restore", n]
  | exec c => ["--exec", c]
  | place p _ => [p]
  | unknown a _ _ => [a]

/-- The folder a group names, after `--dir` or on its own. -/
def dir? : Group → Option String
  | dir p => some p
  | place p _ => some p
  | _ => none

/-- The mode a group asks for, when it is not `--exec`. -/
def mode? : Group → Option Mode
  | backup => some .backup
  | listBackups => some .listBackups
  | restore n => some (.restore n)
  | _ => none

/-- The command of an `--exec` group. -/
def command? : Group → Option String
  | exec c => some c
  | _ => none

/-- The argument of an unknown option. -/
def unknown? : Group → Option String
  | unknown a _ _ => some a
  | _ => none

/-- A mode other than `--exec` is neither the interactive screen nor a list of commands. -/
theorem mode?_eq_some {g : Group} {m : Mode} (h : g.mode? = some m) :
    m ≠ .interactive ∧ ∀ cs, m ≠ .exec cs := by
  cases g <;> simp only [mode?, Option.some.injEq, reduceCtorEq] at h <;> subst h <;> simp

/-- A group that asks for a mode other than `--exec` is no folder, no command, no unknown
    option and no flag. -/
theorem others_of_mode? {g : Group} {m : Mode} (h : g.mode? = some m) :
    g.dir? = none ∧ g.command? = none ∧ g.unknown? = none ∧ Group.demo ≠ g ∧
      Group.durable ≠ g := by
  cases g <;> simp_all [mode?, dir?, command?, unknown?]

end Group

/-- The arguments of a line of groups. -/
def argsOf (gs : List Group) : List String := gs.flatMap Group.args

/-- A line of arguments cut into groups: all of it, or all but a last flag that lacks its
    argument. -/
def Grouped (args : List String) : Prop :=
  (∃ gs, argsOf gs = args) ∨ ∃ gs, ∃ w ∈ valueFlags, argsOf gs ++ [w] = args

/-- The folders a line of groups names, in their order. -/
def dirs (gs : List Group) : List String := gs.filterMap Group.dir?

/-- The modes other than `--exec` a line of groups names, in their order. -/
def modes (gs : List Group) : List Mode := gs.filterMap Group.mode?

/-- The `--exec` commands of a line of groups, in their order. -/
def commands (gs : List Group) : List String := gs.filterMap Group.command?

/-- The unknown options of a line of groups. -/
def unknowns (gs : List Group) : List String := gs.filterMap Group.unknown?

/-- The checks made while a line of groups is read. -/
def Readable (gs : List Group) : Prop :=
  unknowns gs = [] ∧ gs.count .demo ≤ 1 ∧ gs.count .durable ≤ 1 ∧ (dirs gs).length ≤ 1 ∧
    (modes gs).length ≤ 1 ∧ (modes gs = [] ∨ commands gs = [])

/-- When the options of a line of groups are accepted. -/
structure Accepted (gs : List Group) : Prop where
  /-- No argument that starts with a dash is an unknown option. -/
  known : unknowns gs = []
  demo_once : gs.count .demo ≤ 1
  durable_once : gs.count .durable ≤ 1
  /-- One folder at most, given after `--dir` or on its own. -/
  dir_once : (dirs gs).length ≤ 1
  /-- One mode at most, `--exec` as often as wanted but with no other mode. -/
  mode_once : (modes gs).length ≤ 1
  mode_or_exec : modes gs = [] ∨ commands gs = []
  /-- The demo takes no folder, no durable writes and no mode but `--exec`. -/
  demo_alone : .demo ∈ gs → dirs gs = [] ∧ .durable ∉ gs ∧ modes gs = []

/-- The options a line of groups names. -/
def ofGroups (gs : List Group) : Options where
  demo := decide (.demo ∈ gs)
  dir := (dirs gs).head?
  durable := decide (.durable ∈ gs)
  mode := if commands gs = [] then ((modes gs).head?).getD .interactive else .exec (commands gs)

/-- Two options that differ at most in the order of their `--exec` commands. -/
structure Reordered (o o' : Options) : Prop where
  demo : o.demo = o'.demo
  dir : o.dir = o'.dir
  durable : o.durable = o'.durable
  mode : o.mode = o'.mode ∨ ∃ cs cs', o.mode = .exec cs ∧ o'.mode = .exec cs' ∧ cs.Perm cs'

/-- Reads one group after the options read so far; none when it is refused. -/
def readGroup (o : Options) : Group → Option Options
  | .demo => if o.demo then none else some { o with demo := true }
  | .durable => if o.durable then none else some { o with durable := true }
  | .dir p | .place p _ => if o.dir.isSome then none else some { o with dir := some p }
  | .backup => o.setMode .backup
  | .listBackups => o.setMode .listBackups
  | .restore n => o.setMode (.restore n)
  | .exec c =>
    match o.mode with
    | .exec cs => some { o with mode := .exec (cs ++ [c]) }
    | _ => o.setMode (.exec [c])
  | .unknown _ _ _ => none

/-! ## Lines of groups -/

/-- A group in front of a line cut into groups gives a line cut into groups. -/
theorem Grouped.cons (g : Group) {rest : List String} (h : Grouped rest) :
    Grouped (g.args ++ rest) := by
  rcases h with ⟨gs, rfl⟩ | ⟨gs, w, hw, rfl⟩
  · exact .inl ⟨g :: gs, rfl⟩
  · exact .inr ⟨g :: gs, w, hw, by simp [argsOf]⟩

/-- An argument that takes none after it is a group of its own. -/
theorem exists_group_of_not_mem_valueFlags {a : String} (h : a ∉ valueFlags) :
    ∃ g : Group, g.args = [a] := by
  by_cases hdemo : a = "--demo"
  · exact ⟨.demo, by simp [Group.args, hdemo]⟩
  by_cases hdur : a = "--durable-writes"
  · exact ⟨.durable, by simp [Group.args, hdur]⟩
  by_cases hbackup : a = "--backup"
  · exact ⟨.backup, by simp [Group.args, hbackup]⟩
  by_cases hlist : a = "--list-backups"
  · exact ⟨.listBackups, by simp [Group.args, hlist]⟩
  -- any other word is a folder or an unknown option
  cases hdash : a.startsWith "-" with
  | true => exact ⟨.unknown a hdash (by simp_all [optionWords, valueFlags]), rfl⟩
  | false => exact ⟨.place a hdash, rfl⟩

/-- A flag that takes an argument makes a group with it. -/
theorem exists_group_of_mem_valueFlags {w : String} (h : w ∈ valueFlags) (v : String) :
    ∃ g : Group, g.args = [w, v] := by
  simp only [valueFlags, List.mem_cons, List.not_mem_nil, or_false] at h
  rcases h with rfl | rfl | rfl
  · exact ⟨.dir v, rfl⟩
  · exact ⟨.restore v, rfl⟩
  · exact ⟨.exec v, rfl⟩

/-- **Every line of arguments is a line of groups**, or a line of groups followed by a flag
    that lacks its argument. -/
theorem grouped (args : List String) : Grouped args := by
  -- a flag with its argument takes two steps, so the induction carries the line after the
  -- first argument too
  suffices h : Grouped args ∧ Grouped args.tail from h.1
  induction args with
  | nil => exact ⟨.inl ⟨[], rfl⟩, .inl ⟨[], rfl⟩⟩
  | cons a rest ih =>
    refine ⟨?_, ih.1⟩
    by_cases hw : a ∈ valueFlags
    · cases rest with
      | nil => exact .inr ⟨[], a, hw, rfl⟩
      | cons v rest' =>
        obtain ⟨g, hg⟩ := exists_group_of_mem_valueFlags hw v
        simpa [hg] using Grouped.cons g ih.2
    · obtain ⟨g, hg⟩ := exists_group_of_not_mem_valueFlags hw
      simpa [hg] using Grouped.cons g ih.1

/-! ## Reading group by group -/

/-- A word that is no option is read as a folder, or refused when it starts with a dash. -/
theorem parseFrom_word (o : Options) {p : String} (rest : List String) (h : p ∉ optionWords) :
    parseFrom o (p :: rest) =
      if p.startsWith "-" then none
      else if o.dir.isSome then none else parseFrom { o with dir := some p } rest := by
  rw [parseFrom.eq_def]
  split <;> simp_all [optionWords]

/-- Reading the arguments of a group, then the rest, is reading the group, then the rest. -/
theorem parseFrom_args_append (o : Options) (g : Group) (rest : List String) :
    parseFrom o (g.args ++ rest) = (o.readGroup g).bind (parseFrom · rest) := by
  cases g with
  | demo | durable =>
    simp only [Group.args, List.cons_append, List.nil_append, parseFrom, readGroup]
    split <;> rfl
  | backup | listBackups | restore n =>
    simp [Group.args, parseFrom, readGroup]
  | dir p =>
    simp only [Group.args, List.cons_append, List.nil_append, parseFrom, readGroup]
    split <;> rfl
  | exec c =>
    simp only [Group.args, List.cons_append, List.nil_append, parseFrom, readGroup]
    cases o.mode <;> rfl
  | place p plain =>
    have hp : p ∉ optionWords := fun h => by
      simp [startsWith_dash_of_mem_optionWords h] at plain
    simp only [Group.args, List.cons_append, List.nil_append, parseFrom_word o rest hp, plain,
      Bool.false_eq_true, if_false, readGroup]
    split <;> rfl
  | unknown a dash other =>
    simp [Group.args, parseFrom_word o rest other, dash, readGroup]

/-- Reading a line of groups and then more is reading one group after the other, then the
    rest. -/
theorem parseFrom_argsOf_append (o : Options) (gs : List Group) (rest : List String) :
    parseFrom o (argsOf gs ++ rest) = (gs.foldlM readGroup o).bind (parseFrom · rest) := by
  induction gs generalizing o with
  | nil => rfl
  | cons g gs ih =>
    rw [argsOf, List.flatMap_cons, List.append_assoc, parseFrom_args_append, List.foldlM_cons]
    cases o.readGroup g with
    | none => rfl
    | some o' => exact ih o'

/-- Reading a line of groups is reading one group after the other. -/
theorem parseFrom_argsOf (o : Options) (gs : List Group) :
    parseFrom o (argsOf gs) = gs.foldlM readGroup o := by
  have h := parseFrom_argsOf_append o gs []
  rw [List.append_nil] at h
  rw [h]
  cases gs.foldlM readGroup o <;> rfl

/-! ## What the options read so far are

    The folders, modes, commands and unknown options of a line are taken group by group. -/

@[simp] theorem dirs_append (gs gs' : List Group) : dirs (gs ++ gs') = dirs gs ++ dirs gs' :=
  List.filterMap_append
@[simp] theorem modes_append (gs gs' : List Group) : modes (gs ++ gs') = modes gs ++ modes gs' :=
  List.filterMap_append
@[simp] theorem commands_append (gs gs' : List Group) :
    commands (gs ++ gs') = commands gs ++ commands gs' :=
  List.filterMap_append
@[simp] theorem unknowns_append (gs gs' : List Group) :
    unknowns (gs ++ gs') = unknowns gs ++ unknowns gs' :=
  List.filterMap_append

@[simp] theorem dirs_singleton (g : Group) : dirs [g] = g.dir?.toList := by
  cases h : g.dir? <;> simp [dirs, h]
@[simp] theorem modes_singleton (g : Group) : modes [g] = g.mode?.toList := by
  cases h : g.mode? <;> simp [modes, h]
@[simp] theorem commands_singleton (g : Group) : commands [g] = g.command?.toList := by
  cases h : g.command? <;> simp [commands, h]
@[simp] theorem unknowns_singleton (g : Group) : unknowns [g] = g.unknown?.toList := by
  cases h : g.unknown? <;> simp [unknowns, h]

/-- Setting the mode needs the interactive screen as the mode so far. -/
theorem setMode_eq (o : Options) (m : Mode) :
    o.setMode m = if o.mode = .interactive then some { o with mode := m } else none := by
  obtain ⟨demo, dir, durable, mode⟩ := o
  cases mode <;> rfl

/-- The modes a line names are neither the interactive screen nor a list of commands. -/
theorem mode_of_mem_modes {gs : List Group} {m : Mode} (h : m ∈ modes gs) :
    m ≠ .interactive ∧ ∀ cs, m ≠ .exec cs := by
  obtain ⟨g, -, hg⟩ := List.mem_filterMap.1 h
  exact Group.mode?_eq_some hg

/-- A line names the interactive screen exactly when it names no mode. -/
theorem mode_ofGroups_eq_interactive {gs : List Group} :
    (ofGroups gs).mode = .interactive ↔ commands gs = [] ∧ modes gs = [] := by
  simp only [ofGroups]
  split
  · rename_i hc
    cases hm : modes gs with
    | nil => simp [hc]
    | cons m ms =>
      have := (mode_of_mem_modes (show m ∈ modes gs by simp [hm])).1
      simp [hc, this]
  · simp [*]

/-- A line names a list of commands exactly when it has `--exec` groups, and then names
    their commands. -/
theorem mode_ofGroups_eq_exec {gs : List Group} {cs : List String} :
    (ofGroups gs).mode = .exec cs ↔ commands gs ≠ [] ∧ commands gs = cs := by
  simp only [ofGroups]
  split
  · rename_i hc
    cases hm : modes gs with
    | nil => simp [hc]
    | cons m ms =>
      have := (mode_of_mem_modes (show m ∈ modes gs by simp [hm])).2 cs
      simp [hc, this]
  · simp [*]

/-- An `--exec` group read in another mode than a list of commands sets the mode. -/
theorem readGroup_exec_of_ne {o : Options} (c : String) (h : ∀ cs, o.mode ≠ .exec cs) :
    o.readGroup (.exec c) = o.setMode (.exec [c]) := by
  cases hm : o.mode with
  | exec cs => exact absurd hm (h cs)
  | _ => simp [readGroup, hm]

section Reading

variable {gs : List Group} (hr : Readable gs) (o : Options)
include hr

/-- A mode other than `--exec` read after accepted groups is accepted exactly when the
    line names no mode so far. -/
theorem setMode_ofGroups {g : Group} {m : Mode} (hg : g.mode? = some m) :
    (ofGroups gs).setMode m = some o ↔ Readable (gs ++ [g]) ∧ ofGroups (gs ++ [g]) = o := by
  obtain ⟨hu, hdemo, hdur, hdir, hmode, hme⟩ := hr
  obtain ⟨hd', hc', hu', hdemo', hdur'⟩ := Group.others_of_mode? hg
  rw [setMode_eq]
  by_cases hc : commands gs = []
  · by_cases hm : modes gs = []
    · -- no mode yet: the mode is set
      simp [hc, hm, ofGroups, Readable, hu, hdemo, hdur, hdir, hg, hc', hd', hu', hdemo', hdur',
        hdemo'.symm, hdur'.symm]
    · -- a mode other than `--exec` was given
      simp [mode_ofGroups_eq_interactive, hc, hm, Readable, hg]
  · -- commands were given
    simp [mode_ofGroups_eq_interactive, hc, Readable, hg]

/-- **Reading one more group** after accepted ones is accepted exactly when the longer line
    passes the checks, and then gives what the longer line names. -/
theorem readGroup_ofGroups (g : Group) :
    (ofGroups gs).readGroup g = some o ↔ Readable (gs ++ [g]) ∧ ofGroups (gs ++ [g]) = o := by
  have hr' := hr
  obtain ⟨hu, hdemo, hdur, hdir, hmode, hme⟩ := hr'
  cases g with
  | demo =>
    -- refused when given before
    by_cases h : Group.demo ∈ gs
    · simp [readGroup, ofGroups, h, Readable, List.count_eq_zero]
    · simp [readGroup, ofGroups, h, Readable, List.count_eq_zero, hu, hdur, hdir, hmode, hme,
        Group.dir?, Group.mode?, Group.command?, Group.unknown?]
  | durable =>
    by_cases h : Group.durable ∈ gs
    · simp [readGroup, ofGroups, h, Readable, List.count_eq_zero]
    · simp [readGroup, ofGroups, h, Readable, List.count_eq_zero, hu, hdemo, hdir, hmode, hme,
        Group.dir?, Group.mode?, Group.command?, Group.unknown?]
  | dir p | place p _ =>
    -- refused when a folder was given before, after `--dir` or on its own
    by_cases h : dirs gs = []
    · simp [readGroup, ofGroups, h, Readable, hu, hdemo, hdur, hmode, hme,
        Group.dir?, Group.mode?, Group.command?, Group.unknown?]
    · simp [readGroup, ofGroups, h, Readable, Group.dir?]
  | backup => exact setMode_ofGroups hr o rfl
  | listBackups => exact setMode_ofGroups hr o rfl
  | restore n => exact setMode_ofGroups hr o rfl
  | exec c =>
    by_cases hc : commands gs = []
    · by_cases hm : modes gs = []
      · -- the first command sets the mode
        have hmode' := mode_ofGroups_eq_interactive.2 ⟨hc, hm⟩
        rw [readGroup_exec_of_ne c (by simp [hmode']), setMode_eq]
        simp [ofGroups, Readable, hc, hm, hu, hdemo, hdur, hdir,
          Group.dir?, Group.mode?, Group.command?, Group.unknown?]
      · -- another mode was given
        have hne : ∀ cs, (ofGroups gs).mode ≠ .exec cs := fun cs h =>
          (mode_ofGroups_eq_exec.1 h).1 hc
        rw [readGroup_exec_of_ne c hne, setMode_eq]
        simp [mode_ofGroups_eq_interactive, hc, hm, Readable, Group.mode?, Group.command?]
    · -- one more command, after the commands given before
      have hm : modes gs = [] := hme.resolve_right hc
      simp [readGroup, ofGroups, Readable, hc, hm, hu, hdemo, hdur, hdir,
        Group.dir?, Group.mode?, Group.command?, Group.unknown?]
  | unknown a dash other => simp [readGroup, Readable, Group.unknown?]

end Reading

/-- The checks made while reading hold of every first part of a line that passes them. -/
theorem Readable.of_append {gs gs' : List Group} (h : Readable (gs ++ gs')) : Readable gs := by
  obtain ⟨hu, hdemo, hdur, hdir, hmode, hme⟩ := h
  simp only [unknowns_append, List.append_eq_nil_iff, List.count_append, dirs_append,
    modes_append, commands_append, List.length_append] at hu hdemo hdur hdir hmode hme
  exact ⟨hu.1, by omega, by omega, by omega, by omega, hme.imp And.left And.left⟩

/-- The empty line names the options before any is read. -/
theorem ofGroups_nil : ofGroups [] = {} := rfl

/-- **Reading the rest of a line** after accepted groups is refused exactly when the whole
    line fails a check made while reading, and otherwise gives the options the whole line
    names. -/
theorem foldlM_readGroup {pre : List Group} (hr : Readable pre) (gs : List Group)
    (o : Options) :
    gs.foldlM readGroup (ofGroups pre) = some o ↔
      Readable (pre ++ gs) ∧ ofGroups (pre ++ gs) = o := by
  -- the invariant: the options read so far are those the groups read so far name
  induction gs generalizing pre with
  | nil => simp [hr]
  | cons g gs ih =>
    rw [List.foldlM_cons]
    cases hg : (ofGroups pre).readGroup g with
    | none =>
      -- refused at `g`, so already the line up to `g` fails a check
      have hno : ¬ Readable (pre ++ [g]) := fun h => by
        simpa [hg] using (readGroup_ofGroups hr (ofGroups (pre ++ [g])) g).2 ⟨h, rfl⟩
      have hno' : ¬ Readable (pre ++ g :: gs) := fun h =>
        hno (Readable.of_append (show Readable (pre ++ [g] ++ gs) by simpa using h))
      simp [hno']
    | some o' =>
      obtain ⟨hr', rfl⟩ := (readGroup_ofGroups hr o' g).1 hg
      simpa using ih hr'

/-- The empty line passes the checks made while reading. -/
theorem readable_nil : Readable [] := by
  simp [Readable, unknowns, dirs, modes, commands]

/-- Reading a whole line is refused exactly when it fails a check made while reading, and
    otherwise gives the options the line names. -/
theorem foldlM_readGroup_empty (gs : List Group) (o : Options) :
    gs.foldlM readGroup {} = some o ↔ Readable gs ∧ ofGroups gs = o := by
  simpa [ofGroups_nil] using foldlM_readGroup readable_nil gs o

/-! ## The options of a line -/

/-- The checks of a line are those made while reading it and the checks on the demo. -/
theorem accepted_iff {gs : List Group} :
    Accepted gs ↔
      Readable gs ∧ (.demo ∈ gs → dirs gs = [] ∧ .durable ∉ gs ∧ modes gs = []) := by
  constructor
  · rintro ⟨hu, hdemo, hdur, hdir, hmode, hme, halone⟩
    exact ⟨⟨hu, hdemo, hdur, hdir, hmode, hme⟩, halone⟩
  · rintro ⟨⟨hu, hdemo, hdur, hdir, hmode, hme⟩, halone⟩
    exact ⟨hu, hdemo, hdur, hdir, hmode, hme, halone⟩

/-- A line that names no mode other than `--exec` names the interactive screen or a list of
    commands. -/
theorem mode_ofGroups_of_modes_nil {gs : List Group} (h : modes gs = []) :
    (ofGroups gs).mode = .interactive ∨ ∃ cs, (ofGroups gs).mode = .exec cs := by
  by_cases hc : commands gs = []
  · exact .inl (mode_ofGroups_eq_interactive.2 ⟨hc, h⟩)
  · exact .inr ⟨commands gs, mode_ofGroups_eq_exec.2 ⟨hc, rfl⟩⟩

/-- **The options of a line of groups**: they are accepted exactly when the line passes
    the checks, and then they are the options the line names, the `--exec` commands in
    the order of the line. -/
theorem parse_argsOf_eq_some_iff (gs : List Group) (o : Options) :
    parse (argsOf gs) = some o ↔ Accepted gs ∧ ofGroups gs = o := by
  rw [accepted_iff]
  simp only [parse, parseFrom_argsOf]
  cases h : gs.foldlM readGroup {} with
  | none =>
    have hno : ¬ Readable gs := fun hr => by
      simpa [h] using (foldlM_readGroup_empty gs (ofGroups gs)).2 ⟨hr, rfl⟩
    simp [hno]
  | some o' =>
    obtain ⟨hr, rfl⟩ := (foldlM_readGroup_empty gs o').1 h
    by_cases hd : Group.demo ∈ gs
    · -- the demo checks that no folder, no durable writes and no other mode is given
      have hdemo : (ofGroups gs).demo = true := by simp [ofGroups, hd]
      by_cases hdir : dirs gs = []
      · by_cases hdur : Group.durable ∈ gs
        · have hdur' : (ofGroups gs).durable = true := by simp [ofGroups, hdur]
          simp [hdemo, hdur', hdur, hd]
        · have hdir' : (ofGroups gs).dir = none := by simp [ofGroups, hdir]
          have hdur' : (ofGroups gs).durable = false := by simp [ofGroups, hdur]
          cases hmo : (ofGroups gs).mode with
          | interactive =>
            simp [hdemo, hdir', hdur', hmo, hr, hd, hdir, hdur,
              (mode_ofGroups_eq_interactive.1 hmo).2]
          | exec cs =>
            have hm : modes gs = [] :=
              hr.2.2.2.2.2.resolve_right (mode_ofGroups_eq_exec.1 hmo).1
            simp [hdemo, hdir', hdur', hmo, hr, hd, hdir, hdur, hm]
          | backup | listBackups | restore n =>
            have hm : modes gs ≠ [] := fun hm => by
              rcases mode_ofGroups_of_modes_nil hm with h' | ⟨cs, h'⟩ <;> simp [hmo] at h'
            simp [hdemo, hdir', hdur', hmo, hd, hm]
      · have hdir' : (ofGroups gs).dir.isSome = true := by
          cases hds : dirs gs with
          | nil => exact absurd hds hdir
          | cons d ds => simp [ofGroups, hds]
        simp [hdemo, hdir', hd, hdir]
    · have hdemo : (ofGroups gs).demo = false := by simp [ofGroups, hd]
      simp [hdemo, hr, hd]

/-- A line that fails the checks is refused. -/
theorem parse_argsOf_eq_none {gs : List Group} (h : ¬ Accepted gs) : parse (argsOf gs) = none :=
  Option.eq_none_iff_forall_ne_some.2 fun o ho => h ((parse_argsOf_eq_some_iff gs o).1 ho).1

/-- A line that ends with a flag lacking its argument is refused. -/
theorem parse_argsOf_append_valueFlag (gs : List Group) {w : String} (hw : w ∈ valueFlags) :
    parse (argsOf gs ++ [w]) = none := by
  have hlast (o : Options) : parseFrom o [w] = none := by
    simp only [valueFlags, List.mem_cons, List.not_mem_nil, or_false] at hw
    rcases hw with rfl | rfl | rfl <;> simp [parseFrom]
  simp only [parse, parseFrom_argsOf_append]
  cases gs.foldlM readGroup {} <;> simp [hlast]

/-! ## Reordering the groups -/

/-- Two reorderings of a list of at most one item are equal. -/
theorem eq_of_perm_of_length_le_one {α : Type} {l l' : List α} (h : l.Perm l')
    (hl : l.length ≤ 1) : l = l' := by
  match l, hl with
  | [], _ => exact h.nil_eq
  | [_], _ => exact (List.perm_singleton.1 h.symm).symm

/-- A reordering of the empty list is empty. -/
theorem eq_nil_of_perm {α : Type} {l l' : List α} (h : l.Perm l') (hl : l = []) : l' = [] := by
  subst hl
  exact h.nil_eq.symm

/-- Reordering the groups of a line keeps it passing the checks. -/
theorem Accepted.perm {gs gs' : List Group} (ha : Accepted gs) (h : gs.Perm gs') :
    Accepted gs' where
  known := eq_nil_of_perm (h.filterMap _) ha.known
  demo_once := h.count_eq _ ▸ ha.demo_once
  durable_once := h.count_eq _ ▸ ha.durable_once
  dir_once := (h.filterMap _).length_eq ▸ ha.dir_once
  mode_once := (h.filterMap _).length_eq ▸ ha.mode_once
  mode_or_exec := ha.mode_or_exec.imp (eq_nil_of_perm (h.filterMap _))
    (eq_nil_of_perm (h.filterMap _))
  demo_alone hd := by
    obtain ⟨hdir, hdur, hm⟩ := ha.demo_alone (h.mem_iff.2 hd)
    exact ⟨eq_nil_of_perm (h.filterMap _) hdir, fun h' => hdur (h.mem_iff.2 h'),
      eq_nil_of_perm (h.filterMap _) hm⟩

/-- Reordering the groups of a line that passes the checks changes the options it names
    at most in the order of the `--exec` commands. -/
theorem ofGroups_perm {gs gs' : List Group} (ha : Accepted gs) (h : gs.Perm gs') :
    Reordered (ofGroups gs) (ofGroups gs') := by
  -- a folder and a mode other than `--exec` are given once at most, so they stay put
  have hdirs : dirs gs = dirs gs' := eq_of_perm_of_length_le_one (h.filterMap _) ha.dir_once
  have hmodes : modes gs = modes gs' := eq_of_perm_of_length_le_one (h.filterMap _) ha.mode_once
  have hcommands : (commands gs).Perm (commands gs') := h.filterMap _
  refine ⟨by simp [ofGroups, h.mem_iff], by simp [ofGroups, hdirs],
    by simp [ofGroups, h.mem_iff], ?_⟩
  by_cases hc : commands gs = []
  · have hc' := eq_nil_of_perm hcommands hc
    exact .inl (by simp [ofGroups, hc, hc', hmodes])
  · have hc' : commands gs' ≠ [] := fun hc' => hc (eq_nil_of_perm hcommands.symm hc')
    exact .inr ⟨commands gs, commands gs', by simp [ofGroups, hc], by simp [ofGroups, hc'],
      hcommands⟩

/-- **Reordering the groups** of a line changes its options at most in the order of the
    `--exec` commands: both orders are accepted or both refused. -/
theorem parse_argsOf_perm {gs gs' : List Group} (h : gs'.Perm gs) :
    Option.Rel Reordered (parse (argsOf gs')) (parse (argsOf gs)) := by
  by_cases ha : Accepted gs
  · have ha' := ha.perm h.symm
    rw [(parse_argsOf_eq_some_iff gs' _).2 ⟨ha', rfl⟩, (parse_argsOf_eq_some_iff gs _).2 ⟨ha, rfl⟩]
    exact .some (ofGroups_perm ha' h)
  · have ha' : ¬ Accepted gs' := fun ha' => ha (ha'.perm h)
    rw [parse_argsOf_eq_none ha', parse_argsOf_eq_none ha]
    exact .none

/-- **The grammar of the options.**  A line of groups is accepted exactly when it has no
    unknown option, `--demo` and `--durable-writes` at most once each, one folder at most,
    one mode at most with `--exec` repeatable, and the demo only without a folder, without
    durable writes and with no mode but `--exec`; the options are then the ones the line
    names, the `--exec` commands in the order of the line.  Reordering the groups changes
    nothing but that order. -/
theorem parse_groups (gs : List Group) :
    (∀ o, parse (argsOf gs) = some o ↔ Accepted gs ∧ ofGroups gs = o) ∧
      ∀ gs', gs'.Perm gs → Option.Rel Reordered (parse (argsOf gs')) (parse (argsOf gs)) :=
  ⟨parse_argsOf_eq_some_iff gs, fun _ h => parse_argsOf_perm h⟩

/-- Commands before and after a folder: the line read in another order gives the same
    folder and the same commands, reordered. -/
theorem parse_groups_commandsAroundFolder :
    [Group.exec "/s 2", Group.dir "work", Group.exec "/s 1"].Perm
        [Group.dir "work", Group.exec "/s 1", Group.exec "/s 2"] ∧
      Option.Rel Reordered
        (parse (argsOf [Group.exec "/s 2", Group.dir "work", Group.exec "/s 1"]))
        (parse (argsOf [Group.dir "work", Group.exec "/s 1", Group.exec "/s 2"])) :=
  have hperm : [Group.exec "/s 2", Group.dir "work", Group.exec "/s 1"].Perm
      [Group.dir "work", Group.exec "/s 1", Group.exec "/s 2"] :=
    @List.perm_append_comm _ [Group.exec "/s 2"] [Group.dir "work", Group.exec "/s 1"]
  ⟨hperm, (parse_groups _).2 _ hperm⟩

end Options

end Tabula
