import Tabula.Proofs.ViewArguments
/-! # The language of command lines

    `parseCommand` reads a command line, blank characters around it dropped: the separator
    in use, a command word and, after a blank, the arguments of the command.  This file
    gives the lines it reads as a grammar on characters (`Accepts`) and shows that it reads
    exactly those, with the unknown action for every other line (`parseCommand_grammar`).
    It selects home exactly when `select` comes with no arguments, and shows the table
    view alone when `view` has no keyword before its first `by:` word.

    Paths written after a command word read as they read alone: `select` gives the path,
    and `view` the path, its keyword and the column after `by:`, whichever separator is
    in use; a line in which that separator does not come first is unknown; and every
    separator reads the rest of a line as the default one does
    (`parseCommand_reads_paths`). -/

namespace Tabula

namespace CommandLine

open Text

/-! ## `select` -/

/-- The arguments `select` can read: blank, or a path. -/
def SelectArgs (tail : List Char) : Prop :=
  trimChars tail = [] ∨ ∃ p, Path.parse (String.ofList (trimChars tail)) = .ok p

theorem selectAction_ne_unknown_iff (tail : List Char) :
    selectAction (trimChars tail) ≠ .unknown ↔ SelectArgs tail := by
  unfold selectAction SelectArgs
  cases trimChars tail with
  | nil => simp
  | cons c cs => cases Path.parse (String.ofList (c :: cs)) <;> simp

theorem selectAction_eq_none_iff (args : List Char) : selectAction args = .select none ↔ args = [] := by
  unfold selectAction
  cases args with
  | nil => simp
  | cons c cs => cases Path.parse (String.ofList (c :: cs)) <;> simp

theorem selectAction_of_parse {cs : List Char} {p : Path} (h : Path.parse (String.ofList cs) = .ok p) :
    selectAction (trimChars cs) = .select (some p) := by
  obtain ⟨c, rest, hcs, hp⟩ := Path.exists_trimChars_eq_cons h
  rw [selectAction, hcs]
  simp only [List.isEmpty_cons, Bool.false_eq_true, if_false, hp]

/-! ## Command lines -/

theorem isBlank_char (sep : Separator) : isBlank sep.char = false := by
  cases sep <;> rfl

/-- A line in which the separator in use does not come first is unknown. -/
theorem parseCommand_of_head_ne {x : String} {sep : Separator}
    (h : (trimChars x.toList).head? ≠ some sep.char) : parseCommand x sep = .unknown := by
  unfold parseCommand
  cases hx : trimChars x.toList with
  | nil => rfl
  | cons c rest =>
    have hc : c ≠ sep.char := fun hc => h (by simp [hx, hc])
    dsimp only
    -- `split` settles the separator test with `hc`, and every branch is the unknown action
    split
    · rfl
    · split <;> rfl

/-- After the separator in use, the line is read by its command word alone. -/
theorem parseCommand_of_sep {x : String} {sep : Separator} {rest : List Char}
    (h : trimChars x.toList = sep.char :: rest) :
    parseCommand x sep =
      match splitWord rest with
      | none => .unknown
      | some (letters, args) =>
        if IsSelectCommand letters then selectAction args
        else if IsViewCommand letters then viewAction args else .unknown := by
  cases hs : splitWord rest with
  | none => simp [parseCommand, h, Separator.ofChar?_char, hs]
  | some split =>
    simp [parseCommand, h, Separator.ofChar?_char, hs, ofList_eq_iff, IsSelectCommand, IsViewCommand]

/-- A command line that names its command: what the command makes of the rest, trimmed. -/
theorem parseCommand_command {x : String} {sep : Separator} {word tail : List Char}
    (h : trimChars x.toList = sep.char :: (word ++ tail)) (ht : ∀ c ∈ tail.head?, isBlank c = true)
    (hw : IsSelectCommand word ∨ IsViewCommand word) :
    parseCommand x sep =
      if IsSelectCommand word then selectAction (trimChars tail) else viewAction (trimChars tail) := by
  rw [parseCommand_of_sep h, splitWord_append hw ht]
  by_cases hs : IsSelectCommand word
  · simp [hs]
  · simp [hs, hw.resolve_left hs]

theorem parseCommand_select {x : String} {sep : Separator} {word tail : List Char}
    (h : trimChars x.toList = sep.char :: (word ++ tail)) (ht : ∀ c ∈ tail.head?, isBlank c = true)
    (hsel : IsSelectCommand word) : parseCommand x sep = selectAction (trimChars tail) := by
  rw [parseCommand_command h ht (Or.inl hsel), if_pos hsel]

theorem parseCommand_view {x : String} {sep : Separator} {word tail : List Char}
    (h : trimChars x.toList = sep.char :: (word ++ tail)) (ht : ∀ c ∈ tail.head?, isBlank c = true)
    (hview : IsViewCommand word) : parseCommand x sep = viewAction (trimChars tail) := by
  rw [parseCommand_command h ht (Or.inr hview), if_neg (not_isSelectCommand_of_isViewCommand hview)]

/-- Every command line is unknown, or names its command. -/
theorem parseCommand_cases (x : String) (sep : Separator) :
    parseCommand x sep = .unknown ∨
      ∃ word tail, trimChars x.toList = sep.char :: (word ++ tail) ∧
        (∀ c ∈ tail.head?, isBlank c = true) ∧
        (IsSelectCommand word ∧ parseCommand x sep = selectAction (trimChars tail) ∨
          IsViewCommand word ∧ parseCommand x sep = viewAction (trimChars tail)) := by
  by_cases hhead : (trimChars x.toList).head? = some sep.char
  · obtain ⟨rest, hx⟩ : ∃ rest, trimChars x.toList = sep.char :: rest := by
      cases hx : trimChars x.toList with
      | nil => simp [hx] at hhead
      | cons c rest => exact ⟨rest, by simp_all⟩
    have hread := parseCommand_of_sep hx
    cases hs : splitWord rest with
    | none =>
      left
      rw [hread, hs]
    | some split =>
      obtain ⟨letters, args⟩ := split
      obtain ⟨tail, rfl, ht, rfl⟩ := splitWord_eq_some hs
      rw [hs] at hread
      by_cases hsel : IsSelectCommand letters
      · exact Or.inr ⟨letters, tail, hx, ht, Or.inl ⟨hsel, by simp [hread, hsel]⟩⟩
      by_cases hview : IsViewCommand letters
      · exact Or.inr ⟨letters, tail, hx, ht, Or.inr ⟨hview, by simp [hread, hsel, hview]⟩⟩
      · exact Or.inl (by simp [hread, hsel, hview])
  · exact Or.inl (parseCommand_of_head_ne hhead)

/-- The command lines read as an action other than the unknown one: the separator, then
    `s` or `select` with arguments `select` can read, or `v` or `view` with arguments
    `view` can read, with a blank or nothing between the command word and its arguments. -/
def Accepts (sep : Separator) (line : List Char) : Prop :=
  ∃ word tail, line = sep.char :: (word ++ tail) ∧ (∀ c ∈ tail.head?, isBlank c = true) ∧
    (IsSelectCommand word ∧ SelectArgs tail ∨ IsViewCommand word ∧ ViewArgs tail)

/-- **Command lines read exactly their grammar.**  A line is read as an action other than
    the unknown one exactly when its trimmed form is in `Accepts`; it selects home exactly
    when `select` comes without arguments; and `view` with no keyword before its first
    `by:` word shows the table view alone. -/
theorem parseCommand_grammar (sep : Separator) (x : String) :
    (parseCommand x sep ≠ .unknown ↔ Accepts sep (trimChars x.toList)) ∧
    (parseCommand x sep = .select none ↔
      ∃ word tail, trimChars x.toList = sep.char :: (word ++ tail) ∧
        (∀ c ∈ tail.head?, isBlank c = true) ∧ IsSelectCommand word ∧ trimChars tail = []) ∧
    ∀ word tail, trimChars x.toList = sep.char :: (word ++ tail) →
      (∀ c ∈ tail.head?, isBlank c = true) → IsViewCommand word →
      (∀ w ∈ wordsBeforeBy tail, ¬ IsViewKeyword w) →
      parseCommand x sep = .changeView .table none none := by
  refine ⟨⟨fun h => ?_, ?_⟩, ⟨fun h => ?_, ?_⟩, ?_⟩
  · -- read: the command word and arguments that were read
    rcases parseCommand_cases x sep with hu | ⟨word, tail, hx, ht, ⟨hsel, hact⟩ | ⟨hview, hact⟩⟩
    · exact absurd hu h
    · exact ⟨word, tail, hx, ht, Or.inl ⟨hsel, (selectAction_ne_unknown_iff tail).1 (hact ▸ h)⟩⟩
    · exact ⟨word, tail, hx, ht, Or.inr ⟨hview, (viewAction_ne_unknown_iff tail).1 (hact ▸ h)⟩⟩
  · -- in the grammar: the command reads its arguments
    rintro ⟨word, tail, hx, ht, ⟨hsel, hargs⟩ | ⟨hview, hargs⟩⟩
    · rw [parseCommand_select hx ht hsel]
      exact (selectAction_ne_unknown_iff tail).2 hargs
    · rw [parseCommand_view hx ht hview]
      exact (viewAction_ne_unknown_iff tail).2 hargs
  · -- going home: only `select` selects, and without arguments
    rcases parseCommand_cases x sep with hu | ⟨word, tail, hx, ht, ⟨hsel, hact⟩ | ⟨hview, hact⟩⟩
    · simp [hu] at h
    · exact ⟨word, tail, hx, ht, hsel, (selectAction_eq_none_iff _).1 (hact ▸ h)⟩
    · exact absurd (hact ▸ h) (viewAction_ne_select _ _)
  · rintro ⟨word, tail, hx, ht, hsel, hnil⟩
    rw [parseCommand_select hx ht hsel, selectAction_eq_none_iff]
    exact hnil
  · intro word tail hx ht hview hno
    rw [parseCommand_view hx ht hview]
    exact viewAction_of_no_keyword (by rwa [wordsBeforeBy_trimChars])

theorem parseCommand_grammar_bareView :
    parseCommand " |View " .pipe = .changeView .table none none :=
  (parseCommand_grammar .pipe " |View ").2.2 ['V', 'i', 'e', 'w'] [] (by decide) (by simp)
    (Or.inr (by decide)) (by simp [wordsBeforeBy])

/-! ## Lines written out -/

/-- **A command line written out**: the separator, a command word and its arguments after a
    blank read as the command reads the arguments. -/
theorem parseCommand_written {x : String} {sep : Separator} {word tail : List Char}
    (hx : x.toList = sep.char :: (word ++ tail)) (hw : IsSelectCommand word ∨ IsViewCommand word)
    (hword : ∀ c ∈ word, isBlank c = false) (ht : ∀ c ∈ tail.head?, isBlank c = true) :
    parseCommand x sep =
      if IsSelectCommand word then selectAction (trimChars tail) else viewAction (trimChars tail) := by
  have hlast : ∀ c ∈ word.getLast?, isBlank c = false := fun c hc => hword c (List.mem_of_getLast? hc)
  have htrim : trimChars x.toList = sep.char :: (word ++ tail.rdropWhile isBlank) := by
    rw [hx, trimChars_cons_of_not_blank (isBlank_char sep), rdropWhile_append_of_getLast _ hlast]
  rw [parseCommand_command htrim (head?_rdropWhile ht) hw, trimChars_rdropWhile]

theorem trimmed_of_trim {g : String} (h : Text.trim g = g) : Trimmed g.toList := by
  rw [← trimChars_eq_self_iff]
  have := congrArg String.toList h
  rwa [Text.trim, String.toList_ofList] at this

/-- **Command lines agree with paths, whatever the separator.**  `select` and a path give
    that path; `view`, a path with no word starting with `by:`, a keyword and `by:` with a
    trimmed column give that view, path and column; a line in which the separator does not
    come first is unknown; and every separator reads the rest of a line as `/` does. -/
theorem parseCommand_reads_paths (sep : Separator) :
    (∀ (s : String) (p : Path), Path.parse s = .ok p →
      parseCommand (String.singleton sep.char ++ "s " ++ s) sep = .select (some p)) ∧
    (∀ (v : View) (s g : String) (p : Path), Path.parse s = .ok p →
      (∀ w ∈ words s.toList, ¬ IsByWord w) → Text.trim g = g → g ≠ "" →
      parseCommand (String.singleton sep.char ++ "v " ++ s ++ " " ++ v.name ++ " by:" ++ g) sep =
        .changeView v (some p) (some g)) ∧
    (∀ x, (trimChars x.toList).head? ≠ some sep.char → parseCommand x sep = .unknown) ∧
    ∀ r, parseCommand (String.singleton sep.char ++ r) sep = parseCommand ("/" ++ r) .slash := by
  refine ⟨fun s p hp => ?_, fun v s g p hp hby hg hne => ?_, fun x hx => parseCommand_of_head_ne hx,
    fun r => ?_⟩
  · have hx : (String.singleton sep.char ++ "s " ++ s).toList =
        sep.char :: (['s'] ++ ' ' :: s.toList) := by
      simp
    have hsel : IsSelectCommand ['s'] := Or.inl (by simp)
    rw [parseCommand_written hx (Or.inl hsel) (by simp; decide) (by simp; decide), if_pos hsel,
      trimChars_cons_blank (by decide)]
    exact selectAction_of_parse (by rwa [String.ofList_toList])
  · have hx : (String.singleton sep.char ++ "v " ++ s ++ " " ++ v.name ++ " by:" ++ g).toList =
        sep.char :: (['v'] ++
          ((' ' :: s.toList ++ [' ']) ++ v.name.toList ++ ' ' :: 'b' :: 'y' :: ':' :: g.toList)) := by
      simp
    have hview : IsViewCommand ['v'] := Or.inl (by simp)
    rw [parseCommand_written hx (Or.inr hview) (by simp; decide) (by simp; decide),
      if_neg (not_isSelectCommand_of_isViewCommand hview),
      viewAction_path_keyword_by v (by rwa [String.ofList_toList]) hby (by simpa using hne)
        (trimmed_of_trim hg), String.ofList_toList]
  · -- both separators stay in front and are the one in use
    have h1 : trimChars (String.singleton sep.char ++ r).toList =
        sep.char :: r.toList.rdropWhile isBlank := by
      simpa using trimChars_cons_of_not_blank (isBlank_char sep) r.toList
    have h2 : trimChars ("/" ++ r).toList = Separator.slash.char :: r.toList.rdropWhile isBlank := by
      rw [show ("/" ++ r).toList = Separator.slash.char :: r.toList by simp [Separator.char]]
      exact trimChars_cons_of_not_blank (isBlank_char .slash) r.toList
    rw [parseCommand_of_sep h1, parseCommand_of_sep h2]

theorem parseCommand_reads_paths_pipe :
    parseCommand (String.singleton Separator.pipe.char ++ "s " ++ "Work : Tasks") .pipe =
        .select (some (.absolute ["Work", "Tasks"])) ∧
      parseCommand (String.singleton Separator.pipe.char ++ "v " ++ "Work : Tasks" ++ " " ++
        View.kanban.name ++ " by:" ++ "Status") .pipe =
        .changeView .kanban (some (.absolute ["Work", "Tasks"])) (some "Status") :=
  ⟨(parseCommand_reads_paths .pipe).1 "Work : Tasks" _ (by decide),
    (parseCommand_reads_paths .pipe).2.1 .kanban "Work : Tasks" "Status" _ (by decide) (by decide)
      (by decide) (by decide)⟩

end CommandLine

end Tabula
