import Tabula.Store.Folder
/-! # Backup names

    A backup name a user gives is checked before any file is read or written: a
    nonempty stem before `.json`, no leading dot, and no slash, backslash, colon or control
    character.  Such a name is one plain component of a path (`PlainFileName`), so the
    path of the backup is the backups directory and then that name, and nothing else: its
    parent is the backups directory, its last component is the name, and its components
    are those of the directory and the name (`PlainFileName.archivePath`).

    The names the program makes itself, `backup-YYYYMMDD-HHMMSS.json` and
    `backup-YYYYMMDD-HHMMSS-n.json`, pass the check for every second and every `n`
    (`parse_numbered`): their stamps are digits, dashes and at most a sign.

    * `ArchiveName.parse_plain`: what a name that passes the check is made of;
    * `ArchiveName.parse_stays_in_backups` puts the two together. -/

namespace Tabula

/-! ## Joining a name to a directory -/

section Paths

/-- The pieces of a path between its slashes: a slash between two texts splits their
    pieces. -/
theorem pathPieces_append_slash (d s : String) :
    pathPieces (d ++ "/" ++ s) = pathPieces d ++ pathPieces s := by
  simp [pathPieces, List.splitOn_append_cons_self]

/-- A text without a slash is one piece. -/
theorem pathPieces_of_not_mem {s : String} (h : '/' ∉ s.toList) : pathPieces s = [s] := by
  simp [pathPieces, List.splitOn_eq_singleton h]

/-- Dropping the leading run of a test stops at the first item that fails it. -/
theorem dropWhile_append_cons_of_forall {p : Char → Bool} {l r : List Char} {a : Char}
    (hl : ∀ c ∈ l, p c = true) (ha : p a = false) :
    (l ++ a :: r).dropWhile p = a :: r := by
  rw [List.dropWhile_append_of_pos hl, List.dropWhile_cons_of_neg (by simp [ha])]

/-- A nonempty list that does not end in `a`, reversed, does not start with `a`. -/
theorem dropWhile_reverse_of_getLast? {l r : List Char} {a : Char} (hne : l ≠ [])
    (hl : l.getLast? ≠ some a) : (l.reverse ++ r).dropWhile (· == a) = l.reverse ++ r := by
  cases h : l.reverse with
  | nil => exact absurd (List.reverse_eq_nil_iff.1 h) hne
  | cons x xs =>
    have hx : x ≠ a := by
      intro hxa
      apply hl
      rw [← List.head?_reverse, h, hxa]
      rfl
    rw [List.cons_append, List.dropWhile_cons_of_neg (by simpa using hx)]

/-- **The parent of a name joined to a directory** is the directory, when the name has no
    slash and the directory does not end in one. -/
theorem parentPath_append_slash {d s : String} (hd : d ≠ "") (hdl : d.toList.getLast? ≠ some '/')
    (hs : s ≠ "") (hslash : '/' ∉ s.toList) : parentPath (d ++ "/" ++ s) = some d := by
  have hD : d.toList ≠ [] := by simpa using hd
  have hS : s.toList ≠ [] := by simpa using hs
  have hSl : s.toList.getLast? ≠ some '/' := fun h => hslash (List.mem_of_getLast? h)
  have hcs : (d ++ "/" ++ s).toList.reverse = s.toList.reverse ++ '/' :: d.toList.reverse := by
    simp
  -- the path does not end in a slash, so its body is all of it
  have hbody : ((d ++ "/" ++ s).toList.reverse.dropWhile (· == '/')) =
      s.toList.reverse ++ '/' :: d.toList.reverse := by
    rw [hcs, dropWhile_reverse_of_getLast? hS hSl]
  -- the last component is the name, and what is left ends in the one slash before it
  have hbefore : ((s.toList.reverse ++ '/' :: d.toList.reverse).dropWhile (· != '/')) =
      '/' :: d.toList.reverse :=
    dropWhile_append_cons_of_forall (fun c hc => by
      have : c ≠ '/' := fun h => hslash (List.mem_reverse.1 (h ▸ hc))
      simpa using this) (by simp)
  have htrim : (('/' :: d.toList.reverse).dropWhile (· == '/')) = d.toList.reverse := by
    rw [List.dropWhile_cons_of_pos (by simp)]
    simpa using dropWhile_reverse_of_getLast? (r := []) hD hdl
  simp only [parentPath, hbody, List.reverse_reverse, hbefore, htrim, List.isEmpty_reverse,
    List.isEmpty_iff, hD, String.ofList_toList]
  simp

/-- The components of a name joined to a directory are those of the directory and the
    name, when the name is a plain component. -/
theorem pathComponents_append_slash (d : String) {s : String} (hs : s ≠ "") (hdot : s ≠ ".")
    (hslash : '/' ∉ s.toList) :
    pathComponents (d ++ "/" ++ s) = pathComponents d ++ [s] := by
  simp [pathComponents, pathPieces_append_slash, pathPieces_of_not_mem hslash, hs, hdot]

/-- The file name of a name joined to a directory is the name, when the name is a plain
    component other than `..`. -/
theorem fileName_append_slash (d : String) {s : String} (hs : s ≠ "") (hdot : s ≠ ".")
    (hdotdot : s ≠ "..") (hslash : '/' ∉ s.toList) : fileName (d ++ "/" ++ s) = some s := by
  rw [fileName, pathComponents_append_slash d hs hdot hslash, List.getLast?_concat]
  simp [hdotdot]

/-- Joining a name without a slash to a nonempty directory that does not end in one puts
    one slash between them. -/
theorem joinPath_eq_append_slash {d s : String} (hd : d ≠ "")
    (hdl : d.toList.getLast? ≠ some '/') (hslash : '/' ∉ s.toList) :
    joinPath d s = d ++ "/" ++ s := by
  have hstart : s.startsWith "/" = false := by
    rw [String.startsWith_string_eq_false_iff]
    intro h
    exact hslash (List.mem_of_head? (List.singleton_prefix_iff_head?_eq_some.1 (by simpa using h)))
  have hend : d.endsWith "/" = false := by
    rw [String.endsWith_eq_endsWith_toSlice, String.Slice.endsWith_string_eq_false_iff]
    intro h
    exact hdl (List.singleton_suffix_iff_getLast?_eq_some.1 (by simpa using h))
  simp [joinPath, hstart, hend, hd]

end Paths

/-! ## The backups directory -/

namespace Folder

/-- The backups directory of a folder ends in `backups`. -/
theorem exists_backupsDir_toList (f : Folder) :
    ∃ pre, f.backupsDir.toList = pre ++ "backups".toList := by
  have hstart : "backups".startsWith "/" = false := by decide +kernel
  simp only [backupsDir, backupsDirName, joinPath, hstart, Bool.false_eq_true, if_false]
  split
  · exact ⟨f.root.toList, by simp⟩
  · exact ⟨f.root.toList ++ ['/'], by simp⟩

/-- The backups directory is a nonempty path that does not end in a slash. -/
theorem backupsDir_shape (f : Folder) :
    f.backupsDir ≠ "" ∧ f.backupsDir.toList.getLast? ≠ some '/' := by
  obtain ⟨pre, h⟩ := exists_backupsDir_toList f
  have hlast : f.backupsDir.toList.getLast? = some 's' := by
    rw [h, List.getLast?_append]
    rfl
  refine ⟨fun he => ?_, by simp [hlast]⟩
  simp [he] at hlast

/-- The path of a backup whose name has no slash is the backups directory, a slash and the
    name. -/
theorem archivePath_eq (f : Folder) {a : ArchiveName} (hslash : '/' ∉ a.text.toList) :
    f.archivePath a = f.backupsDir ++ "/" ++ a.text :=
  joinPath_eq_append_slash f.backupsDir_shape.1 f.backupsDir_shape.2 hslash

end Folder

/-! ## Names that pass the check -/

/-- A name is one plain component of a path: nonempty, neither `.` nor `..`, with no slash,
    backslash, colon or control character. -/
structure PlainFileName (s : String) : Prop where
  ne_empty : s ≠ ""
  ne_dot : s ≠ "."
  ne_dotdot : s ≠ ".."
  no_slash : '/' ∉ s.toList
  no_backslash : '\\' ∉ s.toList
  no_colon : ':' ∉ s.toList
  no_control : ∀ c ∈ s.toList, isControlChar c = false

/-- A plain name is the one component of itself. -/
theorem PlainFileName.pathComponents_eq {s : String} (h : PlainFileName s) :
    pathComponents s = [s] := by
  simp [pathComponents, pathPieces_of_not_mem h.no_slash, h.ne_empty, h.ne_dot]

/-- **A backup of a plain name stays in the backups directory**: the parent of its path is
    the directory, the last component is the name, and the components are those of the
    directory and then the name. -/
theorem PlainFileName.archivePath {a : ArchiveName} (h : PlainFileName a.text) (f : Folder) :
    parentPath (f.archivePath a) = some f.backupsDir ∧ fileName (f.archivePath a) = some a.text ∧
      pathComponents (f.archivePath a) = pathComponents f.backupsDir ++ [a.text] := by
  rw [f.archivePath_eq h.no_slash]
  exact ⟨parentPath_append_slash f.backupsDir_shape.1 f.backupsDir_shape.2 h.ne_empty h.no_slash,
    fileName_append_slash _ h.ne_empty h.ne_dot h.ne_dotdot h.no_slash,
    pathComponents_append_slash _ h.ne_empty h.ne_dot h.no_slash⟩

/-- A name ends in `.json` after a stem exactly when the extension strips to the stem. -/
theorem stripExtension?_eq_some_iff {s t : String} :
    stripExtension? s = some t ↔ s.toList = t.toList ++ archiveExtension.toList := by
  simp only [stripExtension?]
  constructor
  · intro h
    split at h
    · rename_i hsuf
      obtain ⟨pre, hpre⟩ := List.isSuffixOf_iff_suffix.1 hsuf
      obtain rfl := Option.some.inj h
      rw [← hpre]
      simp
    · simp at h
  · intro h
    rw [h, if_pos (List.isSuffixOf_iff_suffix.2 (List.suffix_append _ _))]
    simp

/-- **The check on a backup name**: a name passes exactly when it is a nonempty stem and
    `.json`, does not start with a dot, and has no slash, backslash, colon or control
    character. -/
theorem ArchiveName.parse_eq_ok_iff {s : String} {a : ArchiveName} :
    ArchiveName.parse s = .ok a ↔
      a = ⟨s⟩ ∧ (∃ stem, stem ≠ "" ∧ s.toList = stem.toList ++ archiveExtension.toList) ∧
        ¬ ['.'] <+: s.toList ∧
        ∀ c ∈ s.toList, c ≠ '/' ∧ c ≠ '\\' ∧ c ≠ ':' ∧ isControlChar c = false := by
  have hstem : (!((stripExtension? s).getD "").isEmpty) = true ↔
      ∃ stem, stem ≠ "" ∧ s.toList = stem.toList ++ archiveExtension.toList := by
    cases h : stripExtension? s with
    | none =>
      constructor
      · intro h'
        simp at h'
      · rintro ⟨stem, -, hs⟩
        simp [stripExtension?_eq_some_iff.2 hs] at h
    | some t =>
      have ht := stripExtension?_eq_some_iff.1 h
      constructor
      · intro hne
        exact ⟨t, by simpa [String.isEmpty_iff] using hne, ht⟩
      · rintro ⟨stem, hne, hs⟩
        have : stem = t := by
          rw [ht] at hs
          exact String.toList_inj.1 (List.append_cancel_right hs).symm
        simpa [String.isEmpty_iff, ← this] using hne
  have hdot : (!s.startsWith ".") = true ↔ ¬ ['.'] <+: s.toList := by
    simp [String.startsWith_string_eq_false_iff]
  have hplain : (!s.toList.any fun c => c = '/' || c = '\\' || c = ':' || isControlChar c) = true ↔
      ∀ c ∈ s.toList, c ≠ '/' ∧ c ≠ '\\' ∧ c ≠ ':' ∧ isControlChar c = false := by
    simp [List.any_eq_false, and_assoc]
  simp only [ArchiveName.parse]
  split
  · rename_i hok
    simp only [Bool.and_eq_true] at hok
    obtain ⟨⟨h1, h2⟩, h3⟩ := hok
    simp only [Except.ok.injEq]
    constructor
    · rintro rfl
      exact ⟨rfl, hstem.1 h1, hdot.1 h2, hplain.1 h3⟩
    · rintro ⟨rfl, -⟩
      rfl
  · rename_i hbad
    simp only [reduceCtorEq, false_iff, not_and]
    rintro - hs hd hc
    exact hbad (by simp only [Bool.and_eq_true]; exact ⟨⟨hstem.2 hs, hdot.2 hd⟩, hplain.2 hc⟩)

/-- A backup name that passes the check is the text given, and a plain file name. -/
theorem ArchiveName.parse_plain {s : String} {a : ArchiveName} (h : ArchiveName.parse s = .ok a) :
    a.text = s ∧ PlainFileName s := by
  obtain ⟨rfl, ⟨stem, -, hs⟩, -, hc⟩ := ArchiveName.parse_eq_ok_iff.1 h
  -- the extension alone is longer than `.` and `..`
  have hlen : 5 ≤ s.length := by
    rw [← String.length_toList, hs, List.length_append]
    exact Nat.le_add_left _ _
  refine ⟨rfl, ⟨?_, ?_, ?_, ?_, ?_, ?_, ?_⟩⟩
  · rintro rfl
    exact absurd hlen (by decide)
  · rintro rfl
    exact absurd hlen (by decide)
  · rintro rfl
    exact absurd hlen (by decide)
  · exact fun hm => (hc _ hm).1 rfl
  · exact fun hm => (hc _ hm).2.1 rfl
  · exact fun hm => (hc _ hm).2.2.1 rfl
  · exact fun c hm => (hc c hm).2.2.2

/-! ## The names the program makes -/

/-- A digit is no slash, backslash, colon or control character. -/
theorem plain_of_isDigit {c : Char} (h : c.isDigit = true) :
    c ≠ '/' ∧ c ≠ '\\' ∧ c ≠ ':' ∧ isControlChar c = false := by
  rw [Char.isDigit_iff_toNat] at h
  have h0 : '0'.toNat = 48 := rfl
  have h9 : '9'.toNat = 57 := rfl
  refine ⟨?_, ?_, ?_, ?_⟩
  · rintro rfl
    simp [h0] at h
  · rintro rfl
    simp [h9] at h
  · rintro rfl
    simp [h9] at h
  · simp only [isControlChar, Bool.or_eq_false_iff, decide_eq_false_iff_not, Bool.and_eq_false_iff]
    omega

/-- A number padded with zeros is written in digits. -/
theorem isDigit_of_mem_padDigits {w n : Nat} {c : Char} (h : c ∈ (padDigits w n).toList) :
    c.isDigit = true := by
  simp only [padDigits, Nat.toString_eq_ofList_toDigits, String.toList_append,
    String.toList_ofList, List.mem_append] at h
  rcases h with h | h
  · rw [List.eq_of_mem_replicate h]
    rfl
  · exact Nat.isDigit_of_mem_toDigits (by decide) (by decide) h

/-- A year is written in digits, with a sign outside `0 .. 9999`. -/
theorem mem_yearDigits {y : Int} {c : Char} (h : c ∈ (yearDigits y).toList) :
    c.isDigit = true ∨ c = '-' ∨ c = '+' := by
  simp only [yearDigits] at h
  split at h
  · exact .inl (isDigit_of_mem_padDigits h)
  · rw [String.toList_append, List.mem_append] at h
    rcases h with h | h
    · split at h <;> simp_all
    · exact .inl (isDigit_of_mem_padDigits h)

/-- **A stamp is written in digits, dashes and a sign** for every second, before the epoch
    or after it. -/
theorem mem_stampOfSeconds {t : Int} {c : Char} (h : c ∈ (stampOfSeconds t).toList) :
    c.isDigit = true ∨ c = '-' ∨ c = '+' := by
  unfold stampOfSeconds at h
  generalize CivilDate.ofDays (t / 86400) = date at h
  generalize (t % 86400).toNat = time at h
  simp only [String.toList_append, List.mem_append] at h
  rcases h with ((((((h | h) | h) | h) | h) | h) | h)
  · exact mem_yearDigits h
  · exact .inl (isDigit_of_mem_padDigits h)
  · exact .inl (isDigit_of_mem_padDigits h)
  · exact .inr (.inl (by simpa using h))
  · exact .inl (isDigit_of_mem_padDigits h)
  · exact .inl (isDigit_of_mem_padDigits h)
  · exact .inl (isDigit_of_mem_padDigits h)

/-- The text of the `n`-th name of a stem: the stem, then `-n` from the second name on, then
    `.json`. -/
theorem ArchiveName.numbered_text (stem : String) (n : Nat) :
    (ArchiveName.numbered stem n).text =
      stem ++ (if n = 1 then "" else "-" ++ toString n) ++ archiveExtension := by
  by_cases h : n = 1 <;> simp [ArchiveName.numbered, h, String.append_assoc]

/-- A character of a stamp, a dash or a sign is no slash, backslash, colon or control
    character. -/
theorem plain_of_stampChar {c : Char} (h : c.isDigit = true ∨ c = '-' ∨ c = '+') :
    c ≠ '/' ∧ c ≠ '\\' ∧ c ≠ ':' ∧ isControlChar c = false := by
  rcases h with h | rfl | rfl
  · exact plain_of_isDigit h
  · decide
  · decide

/-- **Every name the program makes for a backup passes the check**, for every second,
    before the epoch or after it, and every sequence number. -/
theorem ArchiveName.parse_numbered (t : Int) (n : Nat) :
    ArchiveName.parse (ArchiveName.numbered (Folder.backupStem t) n).text =
      .ok (ArchiveName.numbered (Folder.backupStem t) n) := by
  have htext := ArchiveName.numbered_text (Folder.backupStem t) n
  -- the sequence number is written in digits after a dash
  have hsuffix : ∀ c ∈ (if n = 1 then "" else "-" ++ toString n).toList,
      c.isDigit = true ∨ c = '-' ∨ c = '+' := by
    intro c hc
    split at hc
    · simp at hc
    · rw [String.toList_append, List.mem_append] at hc
      rcases hc with hc | hc
      · exact .inr (.inl (by simpa using hc))
      · rw [Nat.toString_eq_ofList_toDigits, String.toList_ofList] at hc
        exact .inl (Nat.isDigit_of_mem_toDigits (by decide) (by decide) hc)
  refine ArchiveName.parse_eq_ok_iff.2
    ⟨rfl, ⟨Folder.backupStem t ++ (if n = 1 then "" else "-" ++ toString n), ?_, ?_⟩, ?_, ?_⟩
  · -- the stem starts with `backup-`
    intro h
    have := congrArg String.length h
    simp [Folder.backupStem] at this
  · rw [htext, String.toList_append]
  · -- the name starts with `b`
    rw [htext, List.singleton_prefix_iff_head?_eq_some]
    simp [Folder.backupStem]
  · intro c hc
    rw [htext] at hc
    simp only [Folder.backupStem, String.toList_append, List.mem_append] at hc
    rcases hc with (((hc | hc) | hc) | hc)
    · revert c
      simp [isControlChar]
    · exact plain_of_stampChar (mem_stampOfSeconds hc)
    · exact plain_of_stampChar (hsuffix c hc)
    · revert c
      simp [archiveExtension, isControlChar]

/-! ## Backup names stay in the backups directory -/

/-- **Backup names cannot leave the backups directory.**  A name that passes the check is
    the text given and a plain file name, one component of a path, and the backup it names
    lies in the backups directory of every folder: that directory is the parent of its
    path, the name is its last component, and its components are those of the directory
    and the name.  Every name the program makes, for every second and every sequence
    number, passes the check. -/
theorem ArchiveName.parse_stays_in_backups :
    (∀ s a, ArchiveName.parse s = .ok a →
      a.text = s ∧ PlainFileName s ∧ pathComponents s = [s] ∧
        ∀ f : Folder, parentPath (f.archivePath a) = some f.backupsDir ∧
          fileName (f.archivePath a) = some s ∧
          pathComponents (f.archivePath a) = pathComponents f.backupsDir ++ [s]) ∧
      ∀ (t : Int) (n : Nat),
        ArchiveName.parse (ArchiveName.numbered (Folder.backupStem t) n).text =
          .ok (ArchiveName.numbered (Folder.backupStem t) n) := by
  refine ⟨fun s a h => ?_, ArchiveName.parse_numbered⟩
  obtain ⟨rfl, hplain⟩ := ArchiveName.parse_plain h
  exact ⟨rfl, hplain, hplain.pathComponents_eq, hplain.archivePath⟩

/-- The second backup made in the first second of the epoch is accepted, and lies in the
    backups directory of the current folder. -/
theorem ArchiveName.parse_stays_in_backups_secondAtEpoch :
    ArchiveName.parse (ArchiveName.numbered (Folder.backupStem 0) 2).text =
        .ok (ArchiveName.numbered (Folder.backupStem 0) 2) ∧
      parentPath ((Folder.mk ".").archivePath (ArchiveName.numbered (Folder.backupStem 0) 2)) =
        some (Folder.mk ".").backupsDir :=
  have h := ArchiveName.parse_stays_in_backups.2 0 2
  ⟨h, ((ArchiveName.parse_stays_in_backups.1 _ _ h).2.2.2 (Folder.mk ".")).1⟩

end Tabula
