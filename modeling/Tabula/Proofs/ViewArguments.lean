import Tabula.Proofs.CommandWords
import Tabula.Proofs.PathText
/-! # The arguments of `view`

    `view` reads its arguments by the positions of their words.  The first word that
    starts with `by:` ends the part where it looks for a view keyword; the last keyword
    there is the view; the text before that keyword is the path; and the column is the
    rest of the line after `by:`, or else the words after the keyword.  `viewAction_eq`
    restates the reader over these parts (`headSpans`, `byColumn`, `bareColumn`,
    `viewOutcome`), and the rest of the file reads them on words:

    * `viewAction_of_no_keyword`: with no keyword before the first `by:` word, the table
      view with no path and no column;
    * `LastViewKeyword pre kw post`: `kw` stands alone and is the keyword read.  The outcome
      then depends on `pre` alone (`viewAction_split`), and every text with a keyword before
      its first `by:` word splits so (`exists_lastViewKeyword`);
    * `viewAction_ne_unknown_iff`: `view` reads exactly the arguments of `ViewArgs`;
    * `viewAction_path_keyword_by`: a path, a keyword and `by:` with a column read back as
      they were written. -/

namespace Tabula

namespace CommandLine

open Text

/-! ## Finding the last item -/

section LastIndex

variable {α : Type} {p : α → Bool}

theorem lastIndex?_map {β : Type} (q : β → Bool) (f : α → β) (xs : List α) :
    lastIndex? q (xs.map f) = lastIndex? (q ∘ f) xs := by
  simp [lastIndex?, List.zipIdx_map, List.filter_map, List.getLast?_map, Function.comp_def]

theorem lastIndex?_eq_none {xs : List α} (h : ∀ x ∈ xs, p x = false) : lastIndex? p xs = none := by
  unfold lastIndex?
  rw [List.filter_eq_nil_iff.2 fun e he => ?_]
  · rfl
  · simpa using h e.1 (List.fst_mem_of_mem_zipIdx he)

theorem lastIndex?_append_cons (xs : List α) {x : α} {ys : List α} (hx : p x = true)
    (hys : ∀ y ∈ ys, p y = false) : lastIndex? p (xs ++ x :: ys) = some xs.length := by
  unfold lastIndex?
  -- `x` is kept, and nothing after it
  rw [List.zipIdx_append, List.zipIdx_cons, List.filter_append, List.filter_cons_of_pos (by simpa using hx),
    (List.filter_eq_nil_iff (l := ys.zipIdx _)).2 fun e he => ?_]
  · simp
  · simpa using hys e.1 (List.fst_mem_of_mem_zipIdx he)

/-- The last item of a list with a property, when there is one. -/
theorem exists_last_of_exists {q : α → Prop} {xs : List α} (h : ∃ x ∈ xs, q x) :
    ∃ ys x zs, xs = ys ++ x :: zs ∧ q x ∧ ∀ z ∈ zs, ¬ q z := by
  induction xs with
  | nil => simp at h
  | cons a as ih =>
    by_cases hlater : ∃ x ∈ as, q x
    · obtain ⟨ys, x, zs, rfl, hx, hzs⟩ := ih hlater
      exact ⟨a :: ys, x, zs, rfl, hx, hzs⟩
    · obtain ⟨x, hx, hqx⟩ := h
      have ha : q a := by
        rcases List.mem_cons.1 hx with rfl | hx
        · exact hqx
        · exact absurd ⟨x, hx, hqx⟩ hlater
      exact ⟨[], a, as, rfl, ha, fun z hz hqz => hlater ⟨z, hz, hqz⟩⟩

theorem take_findIdx? {xs : List α} {i : Nat} (h : xs.findIdx? p = some i) :
    xs.take i = xs.takeWhile fun x => !p x := by
  rw [List.takeWhile_eq_take_findIdx_not]
  simp [List.findIdx?_eq_some_iff_findIdx_eq.1 h |>.2]

theorem takeWhile_of_findIdx?_none {xs : List α} (h : xs.findIdx? p = none) :
    xs = xs.takeWhile fun x => !p x := by
  refine (List.takeWhile_eq_self_iff.2 fun x hx => ?_).symm
  simpa using List.findIdx?_eq_none_iff.1 h x hx

end LastIndex

/-! ## The parts `view` reads -/

/-- The words of a text before its first `by:` word: where `view` looks for its keyword. -/
def wordsBeforeBy (cs : List Char) : List (List Char) :=
  (words cs).takeWhile fun w => !decide (IsByWord w)

/-- The spans of the words before the first `by:` word. -/
def headSpans (rest : List Char) : List (Nat × Nat) :=
  (wordSpans rest).takeWhile fun s => !isGroupWord (slice rest s.1 s.2)

/-- The column the first `by:` word names: the rest of the line after its prefix. -/
def byColumn (rest : List Char) : Option String :=
  ((wordSpans rest).findIdx? fun s => isGroupWord (slice rest s.1 s.2)).bind fun i =>
    ((wordSpans rest)[i]?).map fun s => String.ofList (trimChars (rest.drop (s.1 + 3)))

/-- The column the words after the view keyword name, from the first to the last. -/
def bareColumn (rest : List Char) (after : List (Nat × Nat)) : Option String :=
  match after.head?, after.getLast? with
  | some first, some last => some (String.ofList (trimChars (slice rest first.1 last.2)))
  | _, _ => none

/-- What `view` gives once it has read its keyword: the text before the keyword is the
    path, none when blank, and one that does not read makes the line unknown. -/
def viewOutcome (v : View) (pathText : List Char) (groupBy : Option String) : Action :=
  if pathText.isEmpty then .changeView v none groupBy
  else match Path.parse (String.ofList pathText) with
    | .ok p => .changeView v (some p) groupBy
    | .error _ => .unknown

/-- `view` over the parts it reads. -/
theorem viewAction_eq (rest : List Char) :
    viewAction rest =
      match lastIndex? (fun s => (View.keyword? (String.ofList (slice rest s.1 s.2))).isSome)
          (headSpans rest) with
      | none => .changeView .table none none
      | some m =>
        match (headSpans rest)[m]? with
        | none => .changeView .table none none
        | some s =>
          viewOutcome ((View.keyword? (String.ofList (slice rest s.1 s.2))).getD .table)
            (trimChars (rest.take s.1))
            (((byColumn rest).orElse fun _ => bareColumn rest ((headSpans rest).drop (m + 1))).filter
              (!·.isEmpty)) := by
  unfold viewAction
  dsimp only
  -- the spans before the first `by:` word are all of them, or those before it
  cases hfi : (wordSpans rest).findIdx? fun s => isGroupWord (slice rest s.1 s.2) with
  | none =>
    rw [headSpans, ← takeWhile_of_findIdx?_none hfi, byColumn, hfi]
    rfl
  | some i =>
    rw [headSpans, ← take_findIdx? hfi, byColumn, hfi]
    rfl

/-- The spans before the first `by:` word cut out the words before it. -/
theorem map_headSpans (rest : List Char) :
    (headSpans rest).map (fun s => slice rest s.1 s.2) = wordsBeforeBy rest := by
  have h := List.takeWhile_map (f := fun s : Nat × Nat => slice rest s.1 s.2)
    (p := fun w => !isGroupWord w) (l := wordSpans rest)
  rw [slices_wordSpans] at h
  rw [headSpans, wordsBeforeBy, ← not_isGroupWord_eq, h]
  rfl

/-- Where `view` finds its keyword, read on the words before the first `by:` word. -/
theorem lastIndex?_headSpans (rest : List Char) :
    lastIndex? (fun s => (View.keyword? (String.ofList (slice rest s.1 s.2))).isSome) (headSpans rest) =
      lastIndex? (fun w => (View.keyword? (String.ofList w)).isSome) (wordsBeforeBy rest) := by
  rw [← map_headSpans, lastIndex?_map]
  rfl

theorem wordsBeforeBy_trimChars (cs : List Char) : wordsBeforeBy (trimChars cs) = wordsBeforeBy cs := by
  rw [wordsBeforeBy, words_trimChars, wordsBeforeBy]

/-- **No keyword, table view**: without a view keyword before the first `by:` word, `view`
    shows the table view, with no path and no column. -/
theorem viewAction_of_no_keyword {rest : List Char} (h : ∀ w ∈ wordsBeforeBy rest, ¬ IsViewKeyword w) :
    viewAction rest = .changeView .table none none := by
  have hnone : lastIndex? (fun w => (View.keyword? (String.ofList w)).isSome) (wordsBeforeBy rest) = none :=
    lastIndex?_eq_none fun w hw => keyword?_isSome_eq_false (h w hw)
  rw [viewAction_eq, lastIndex?_headSpans, hnone]

/-! ## The keyword read -/

/-- `kw` is the keyword `view` reads in `pre ++ kw ++ post`: a word of its own, before every
    `by:` word, and the last view keyword before the first of them. -/
structure LastViewKeyword (pre kw post : List Char) : Prop where
  word : IsWord kw
  separated : Separated pre post
  keyword : IsViewKeyword kw
  noByBefore : ∀ w ∈ words pre, ¬ IsByWord w
  lastBeforeBy : ∀ w ∈ wordsBeforeBy post, ¬ IsViewKeyword w

theorem wordsBeforeBy_append_word {pre kw post : List Char} (hw : IsWord kw) (hs : Separated pre post)
    (hk : ¬ IsByWord kw) (hpre : ∀ w ∈ words pre, ¬ IsByWord w) :
    wordsBeforeBy (pre ++ kw ++ post) = words pre ++ kw :: wordsBeforeBy post := by
  have hpre : (words pre).takeWhile (fun w => !decide (IsByWord w)) = words pre :=
    List.takeWhile_eq_self_iff.2 fun w hw => by simpa using hpre w hw
  rw [wordsBeforeBy, words_split hw hs, List.takeWhile_append, hpre, if_pos rfl,
    List.takeWhile_cons_of_pos (by simpa using hk)]
  rfl

theorem LastViewKeyword.wordsBeforeBy_split {pre kw post : List Char} (h : LastViewKeyword pre kw post) :
    wordsBeforeBy (pre ++ kw ++ post) = words pre ++ kw :: wordsBeforeBy post :=
  wordsBeforeBy_append_word h.word h.separated (not_isByWord_of_isViewKeyword h.keyword) h.noByBefore

/-- The keyword read stays the keyword read with blank characters around the text. -/
theorem LastViewKeyword.pad {pre kw post lead trail : List Char} (h : LastViewKeyword pre kw post)
    (hlead : ∀ c ∈ lead, isBlank c = true) (htrail : ∀ c ∈ trail, isBlank c = true) :
    LastViewKeyword (lead ++ pre) kw (post ++ trail) where
  word := h.word
  separated := h.separated.pad hlead htrail
  keyword := h.keyword
  noByBefore := by simpa [words_blank_append hlead] using h.noByBefore
  lastBeforeBy := by simpa [wordsBeforeBy, words_append_blanks _ htrail] using h.lastBeforeBy

/-- The keyword read stays the keyword read when the text around it is trimmed. -/
theorem LastViewKeyword.trim {pre kw post : List Char} (h : LastViewKeyword pre kw post) :
    LastViewKeyword (pre.dropWhile isBlank) kw (post.rdropWhile isBlank) where
  word := h.word
  separated := h.separated.trim
  keyword := h.keyword
  noByBefore := by simpa [words_dropWhile] using h.noByBefore
  lastBeforeBy := by simpa [wordsBeforeBy, words_rdropWhile] using h.lastBeforeBy

/-- **The keyword `view` reads stands alone in the text**, whenever there is a view keyword
    before the first `by:` word. -/
theorem exists_lastViewKeyword {cs : List Char} (h : ∃ w ∈ wordsBeforeBy cs, IsViewKeyword w) :
    ∃ pre kw post, cs = pre ++ kw ++ post ∧ LastViewKeyword pre kw post := by
  obtain ⟨ys, kw, zs, hsplit, hkw, hzs⟩ := exists_last_of_exists h
  -- the words before the first `by:` word are the first words of the text
  obtain ⟨later, hlater⟩ := List.takeWhile_prefix (fun w => !decide (IsByWord w)) (l := words cs)
  rw [← wordsBeforeBy, hsplit] at hlater
  have hm : ys.length < (words cs).length := by
    rw [← hlater]
    simp
  -- the last keyword is the word at its place, standing alone
  obtain ⟨pre, kw', post, rfl, hword, hsep, hlen⟩ := exists_split_of_lt hm
  rw [words_split hword hsep, List.append_assoc, List.cons_append] at hlater
  obtain ⟨rfl, hrest⟩ := List.append_inj hlater hlen.symm
  obtain ⟨rfl, -⟩ := List.cons.inj hrest
  have hbefore : ∀ w ∈ wordsBeforeBy (pre ++ kw ++ post), ¬ IsByWord w := fun w hw => by
    simpa using List.mem_takeWhile_imp hw
  have hpre : ∀ w ∈ words pre, ¬ IsByWord w := fun w hw => hbefore w (by rw [hsplit]; simp [hw])
  have hsplit' := wordsBeforeBy_append_word hword hsep (hbefore kw (by rw [hsplit]; simp)) hpre
  rw [hsplit] at hsplit'
  have hzs' : zs = wordsBeforeBy post := (List.cons.inj (List.append_cancel_left hsplit')).2
  exact ⟨pre, kw, post, rfl, hword, hsep, hkw, hpre, hzs' ▸ hzs⟩

theorem slice_middle (pre kw post : List Char) :
    slice (pre ++ kw ++ post) pre.length (pre.length + kw.length) = kw := by
  simp [slice]

theorem headSpans_split {pre kw post : List Char} (h : LastViewKeyword pre kw post) :
    (headSpans (pre ++ kw ++ post))[(words pre).length]? = some (pre.length, pre.length + kw.length) := by
  set cs := pre ++ kw ++ post
  have hlen : (words pre).length < (headSpans cs).length := by
    rw [← List.length_map (f := fun s : Nat × Nat => slice cs s.1 s.2), map_headSpans,
      h.wordsBeforeBy_split]
    simp
  -- the spans before the first `by:` word are the first spans of the text
  obtain ⟨later, hlater⟩ := List.takeWhile_prefix (fun s => !isGroupWord (slice cs s.1 s.2))
    (l := wordSpans cs)
  have hget : (headSpans cs ++ later)[(words pre).length]? = (headSpans cs)[(words pre).length]? :=
    List.getElem?_append_left hlen
  rw [← hget, headSpans, hlater, wordSpans_split_getElem? h.word h.separated]

/-- **The outcome of `view` depends on the text before its keyword**, trimmed: the view is
    the keyword's, and the column is the one after `by:` or else another one. -/
theorem viewAction_split {pre kw post : List Char} (h : LastViewKeyword pre kw post) :
    ∃ bare, viewAction (pre ++ kw ++ post) =
      viewOutcome ((View.keyword? (String.ofList kw)).getD .table) (trimChars pre)
        (((byColumn (pre ++ kw ++ post)).orElse fun _ => bare).filter (!·.isEmpty)) := by
  have hlast : lastIndex? (fun w => (View.keyword? (String.ofList w)).isSome)
      (wordsBeforeBy (pre ++ kw ++ post)) = some (words pre).length := by
    rw [h.wordsBeforeBy_split]
    exact lastIndex?_append_cons _ ((keyword?_isSome_iff kw).2 h.keyword)
      fun w hw => keyword?_isSome_eq_false (h.lastBeforeBy w hw)
  rw [viewAction_eq, lastIndex?_headSpans, hlast]
  simp only [headSpans_split h, slice_middle]
  exact ⟨_, by rw [show (pre ++ kw ++ post).take pre.length = pre by simp]⟩

/-! ## What `view` reads -/

/-- Blank, or a path. -/
def PathOrBlank (cs : List Char) : Prop :=
  (∀ c ∈ cs, isBlank c = true) ∨ ∃ p, Path.parse (String.ofList cs) = .ok p

theorem pathOrBlank_iff (cs : List Char) :
    PathOrBlank cs ↔ trimChars cs = [] ∨ ∃ p, Path.parse (String.ofList (trimChars cs)) = .ok p := by
  rw [PathOrBlank, trimChars_eq_nil_iff, Path.parse_ofList_trimChars]

theorem viewOutcome_ne_unknown_iff {v : View} {pathText : List Char} {g : Option String} :
    viewOutcome v pathText g ≠ .unknown ↔
      pathText = [] ∨ ∃ p, Path.parse (String.ofList pathText) = .ok p := by
  unfold viewOutcome
  cases pathText with
  | nil => simp
  | cons c cs => cases Path.parse (String.ofList (c :: cs)) <;> simp

theorem viewOutcome_of_parse {cs : List Char} {p : Path} (h : Path.parse (String.ofList cs) = .ok p)
    (v : View) (g : Option String) : viewOutcome v (trimChars cs) g = .changeView v (some p) g := by
  obtain ⟨c, rest, hcs, hp⟩ := Path.exists_trimChars_eq_cons h
  rw [viewOutcome, hcs]
  simp only [List.isEmpty_cons, Bool.false_eq_true, if_false, hp]

theorem viewOutcome_ne_select (v : View) (pathText : List Char) (g : Option String) (q : Option Path) :
    viewOutcome v pathText g ≠ .select q := by
  unfold viewOutcome
  split
  · simp
  · split <;> simp

/-- `view` never selects. -/
theorem viewAction_ne_select (rest : List Char) (q : Option Path) : viewAction rest ≠ .select q := by
  rw [viewAction_eq]
  split
  · simp
  · split
    · simp
    · exact viewOutcome_ne_select _ _ _ _

/-- The arguments `view` can read: no view keyword before the first `by:` word, or a text
    before the last of them that is blank or a path. -/
def ViewArgs (tail : List Char) : Prop :=
  (∀ w ∈ wordsBeforeBy tail, ¬ IsViewKeyword w) ∨
    ∃ pre kw post, tail = pre ++ kw ++ post ∧ LastViewKeyword pre kw post ∧ PathOrBlank pre

/-- **`view` reads exactly its arguments**, with or without blank characters around them. -/
theorem viewAction_ne_unknown_iff (tail : List Char) :
    viewAction (trimChars tail) ≠ .unknown ↔ ViewArgs tail := by
  by_cases hk : ∀ w ∈ wordsBeforeBy tail, ¬ IsViewKeyword w
  · rw [viewAction_of_no_keyword (by rwa [wordsBeforeBy_trimChars])]
    exact iff_of_true (by simp) (Or.inl hk)
  constructor
  · -- the keyword read in the trimmed text stands in the text itself, padded
    intro hview
    have hk' : ∃ w ∈ wordsBeforeBy (trimChars tail), IsViewKeyword w := by
      simpa [wordsBeforeBy_trimChars] using hk
    obtain ⟨pre, kw, post, hsplit, hL⟩ := exists_lastViewKeyword hk'
    obtain ⟨bare, hout⟩ := viewAction_split hL
    rw [hsplit, hout, viewOutcome_ne_unknown_iff] at hview
    obtain ⟨lead, trail, htail, hlead, htrail⟩ := exists_blank_trimChars tail
    refine Or.inr ⟨lead ++ pre, kw, post ++ trail, ?_, hL.pad hlead htrail, ?_⟩
    · rw [htail, hsplit]
      simp
    · rwa [pathOrBlank_iff, trimChars_blank_append hlead]
  · -- the keyword read in the text is read in the trimmed text
    rintro (hno | ⟨pre, kw, post, rfl, hL, hpath⟩)
    · exact absurd hno hk
    · obtain ⟨bare, hout⟩ := viewAction_split hL.trim
      rw [trimChars_split hL.word, hout, viewOutcome_ne_unknown_iff, trimChars_dropWhile]
      rwa [pathOrBlank_iff] at hpath

/-! ## A path, a keyword and a column -/

theorem findIdx?_words_split {A w B : List Char} (hw : IsWord w) (hs : Separated A B)
    (hA : ∀ u ∈ words A, ¬ IsByWord u) (hby : IsByWord w) :
    (wordSpans (A ++ w ++ B)).findIdx? (fun s => isGroupWord (slice (A ++ w ++ B) s.1 s.2)) =
      some (words A).length := by
  have hmap := List.findIdx?_map (p := isGroupWord)
    (f := fun s : Nat × Nat => slice (A ++ w ++ B) s.1 s.2) (l := wordSpans (A ++ w ++ B))
  rw [slices_wordSpans, words_split hw hs] at hmap
  have hnone : (words A).findIdx? isGroupWord = none :=
    List.findIdx?_eq_none_iff.2 fun u hu => isGroupWord_eq_false (hA u hu)
  rw [show (fun s : Nat × Nat => isGroupWord (slice (A ++ w ++ B) s.1 s.2)) =
    isGroupWord ∘ fun s => slice (A ++ w ++ B) s.1 s.2 from rfl, ← hmap, List.findIdx?_append, hnone,
    List.findIdx?_cons, (isGroupWord_iff w).2 hby]
  simp

/-- The column of the first `by:` word, when it stands alone. -/
theorem byColumn_split {A w B : List Char} (hw : IsWord w) (hs : Separated A B)
    (hA : ∀ u ∈ words A, ¬ IsByWord u) (hby : IsByWord w) :
    byColumn (A ++ w ++ B) = some (String.ofList (trimChars ((w ++ B).drop 3))) := by
  rw [byColumn, findIdx?_words_split hw hs hA hby, Option.bind_some, wordSpans_split_getElem? hw hs,
    Option.map_some, List.append_assoc]
  simp

/-- `by:` and the text after it: a `by:` word and what follows it. -/
theorem exists_byWord (G : List Char) :
    ∃ bw C, 'b' :: 'y' :: ':' :: G = bw ++ C ∧ IsWord bw ∧ IsByWord bw ∧
      (∀ c ∈ C.head?, isBlank c = true) ∧ (bw ++ C).drop 3 = G := by
  refine ⟨'b' :: 'y' :: ':' :: G.takeWhile (fun c => !isBlank c), G.dropWhile (fun c => !isBlank c),
    by simp, ⟨by simp, fun c hc => ?_⟩, by simp [IsByWord], fun c hc => ?_, by simp⟩
  · simp only [List.mem_cons] at hc
    rcases hc with rfl | rfl | rfl | hc
    · decide
    · decide
    · decide
    · simpa using List.mem_takeWhile_imp hc
  · have := List.head?_dropWhile_not (fun c => !isBlank c) G
    rw [hc] at this
    simpa using this

/-- After a blank and a first `by:` word, the column is the rest of the line, trimmed. -/
theorem byColumn_before_by {A : List Char} (hA : ∀ u ∈ words A, ¬ IsByWord u) (G : List Char) :
    byColumn (A ++ ' ' :: 'b' :: 'y' :: ':' :: G) = some (String.ofList (trimChars G)) := by
  obtain ⟨bw, C, hsplit, hw, hby, hC, hdrop⟩ := exists_byWord G
  have hwords : words (A ++ [' ']) = words A := words_append_blanks _ (by simp; decide)
  have h := byColumn_split (A := A ++ [' ']) hw ⟨by simp; decide, hC⟩ (hwords ▸ hA) hby
  rwa [hdrop, List.append_assoc, List.append_assoc, List.singleton_append, ← hsplit] at h

/-- A keyword written after a path and before `by:` is the keyword read. -/
theorem lastViewKeyword_name {S : List Char} (hby : ∀ w ∈ words S, ¬ IsByWord w) (v : View)
    (G : List Char) :
    LastViewKeyword (' ' :: S ++ [' ']) v.name.toList (' ' :: 'b' :: 'y' :: ':' :: G) where
  word := isWord_name v
  separated := ⟨fun c hc => by
      rw [List.getLast?_concat, Option.mem_def, Option.some.injEq] at hc
      rw [← hc]
      decide,
    fun c hc => by
      rw [List.head?_cons, Option.mem_def, Option.some.injEq] at hc
      rw [← hc]
      decide⟩
  keyword := isViewKeyword_name v
  noByBefore := by
    rwa [List.cons_append, words_cons_blank (by decide), words_append_blanks _ (by simp; decide)]
  lastBeforeBy := by
    -- the first word after the keyword is the `by:` word
    obtain ⟨bw, C, hsplit, hw, hbw, hC, -⟩ := exists_byWord G
    have hwords : words (' ' :: 'b' :: 'y' :: ':' :: G) = bw :: words C := by
      rw [words_cons_blank (by decide), hsplit]
      simpa using words_split (A := []) hw ⟨by simp, hC⟩
    simp [wordsBeforeBy, hwords, hbw]

/-- **A path, a view keyword and a `by:` column** read back as written. -/
theorem viewAction_path_keyword_by {S G : List Char} {p : Path} (v : View)
    (hS : Path.parse (String.ofList S) = .ok p) (hby : ∀ w ∈ words S, ¬ IsByWord w)
    (hG : G ≠ []) (hGt : Trimmed G) :
    viewAction (trimChars ((' ' :: S ++ [' ']) ++ v.name.toList ++ ' ' :: 'b' :: 'y' :: ':' :: G)) =
      .changeView v (some p) (some (String.ofList G)) := by
  have hL := lastViewKeyword_name hby v G
  obtain ⟨bare, hout⟩ := viewAction_split hL.trim
  -- the line ends with the column, so nothing is trimmed at its end
  have hpost : (' ' :: 'b' :: 'y' :: ':' :: G).rdropWhile isBlank = ' ' :: 'b' :: 'y' :: ':' :: G := by
    rw [List.rdropWhile_eq_self_iff]
    intro hl
    have hlast : (' ' :: 'b' :: 'y' :: ':' :: G).getLast hl = G.getLast hG := by
      simp [List.getLast_cons hG]
    rw [hlast]
    simpa using hGt.2 _ (List.getLast?_eq_some_getLast hG)
  have hcol : byColumn ((' ' :: S ++ [' ']).dropWhile isBlank ++ v.name.toList ++
      ' ' :: 'b' :: 'y' :: ':' :: G) = some (String.ofList G) := by
    have hwords := words_split hL.trim.word (B := []) ⟨hL.trim.separated.1, by simp⟩
    rw [List.append_nil, words_nil] at hwords
    have hA : ∀ u ∈ words ((' ' :: S ++ [' ']).dropWhile isBlank ++ v.name.toList), ¬ IsByWord u := by
      rw [hwords]
      simp only [List.mem_append, List.mem_cons, List.not_mem_nil, or_false]
      rintro u (hu | rfl)
      · exact hL.trim.noByBefore u hu
      · exact not_isByWord_of_isViewKeyword (isViewKeyword_name v)
    rw [byColumn_before_by hA, (trimChars_eq_self_iff G).2 hGt]
  have hpath : trimChars ((' ' :: S ++ [' ']).dropWhile isBlank) = trimChars S := by
    rw [trimChars_dropWhile, trimChars_append_blanks _ (by simp; decide),
      trimChars_cons_blank (by decide)]
  rw [trimChars_split hL.word, hout, hpost, hcol, hpath, String.ofList_toList, View.keyword?_name,
    Option.getD_some, viewOutcome_of_parse hS]
  simp [hG]

end CommandLine

end Tabula
