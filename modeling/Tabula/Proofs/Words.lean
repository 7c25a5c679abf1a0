import Tabula.Proofs.Trim
import Tabula.Command.Line
/-! # Words and their spans

    The words of a text are the runs of characters that are not blank (`Text.words`,
    the library's `List.splitOnP` with the empty pieces left out).  A command line reads
    its words by position: `CommandLine.wordSpans` gives where each word starts and ends.
    This file shows that the spans cut out exactly the words (`slices_wordSpans`), so
    that a test of the words at the spans is a test of `words`.

    Most facts follow from cutting a text at a word that stands alone, with a blank
    character or the end of the text on each side (`Separated`): the words are those
    before, that word, and those after (`words_split`), and so are the spans, those after
    shifted by where they start (`wordSpans_split`).  Every word of a text stands alone in
    this way, with the words before and after it on its two sides
    (`exists_split_of_lt`).  Blank characters around a text change neither its words nor
    where a word stands alone (`words_trimChars`, `Separated.pad`, `Separated.trim`). -/

namespace Tabula

namespace Text

/-- The words of a text: the runs of characters that are not blank. -/
def words (cs : List Char) : List (List Char) := (cs.splitOnP isBlank).filter (!·.isEmpty)

/-- A word: not empty, with no blank character. -/
def IsWord (w : List Char) : Prop := w ≠ [] ∧ ∀ c ∈ w, isBlank c = false

/-- What stands before a word ends with a blank character or is empty, and what stands
    after it starts with one or is empty. -/
def Separated (before after : List Char) : Prop :=
  (∀ c ∈ before.getLast?, isBlank c = true) ∧ ∀ c ∈ after.head?, isBlank c = true

/-- No piece of a split holds a character it was split at. -/
theorem not_blank_of_mem_splitOnP {cs w : List Char} (h : w ∈ cs.splitOnP isBlank) :
    ∀ c ∈ w, isBlank c = false := by
  induction cs generalizing w with
  | nil =>
      rw [List.splitOnP_nil, List.mem_singleton] at h
      subst h
      simp
  | cons x xs ih =>
      rw [List.splitOnP_cons_eq_if_modifyHead] at h
      split at h
      · rcases List.mem_cons.1 h with rfl | h
        · simp
        · exact ih h
      · rename_i hx
        obtain ⟨first, more, hsplit⟩ := List.exists_cons_of_ne_nil (List.splitOnP_ne_nil isBlank xs)
        rw [hsplit, List.modifyHead_cons] at h
        rcases List.mem_cons.1 h with rfl | h
        · -- the first piece is `x` in front of the first piece of the rest
          intro c hc
          rcases List.mem_cons.1 hc with rfl | hc
          · simpa using hx
          · exact ih (hsplit ▸ List.mem_cons_self) c hc
        · exact ih (hsplit ▸ List.mem_cons_of_mem _ h)

theorem isWord_of_mem_words {cs w : List Char} (h : w ∈ words cs) : IsWord w := by
  obtain ⟨hw, hne⟩ := List.mem_filter.1 h
  exact ⟨by simpa using hne, not_blank_of_mem_splitOnP hw⟩

@[simp] theorem words_nil : words [] = [] := by
  simp [words, List.splitOnP_nil]

/-- **Words split at a blank character**: the other facts about `words` follow from
    this one. -/
theorem words_append_blank {c : Char} (hc : isBlank c = true) (xs ys : List Char) :
    words (xs ++ c :: ys) = words xs ++ words ys := by
  unfold words
  rw [List.splitOnP_append_cons xs ys hc, List.filter_append]

theorem words_cons_blank {c : Char} (hc : isBlank c = true) (ys : List Char) :
    words (c :: ys) = words ys := by
  simpa using words_append_blank hc [] ys

theorem words_eq_nil {cs : List Char} (h : ∀ c ∈ cs, isBlank c = true) : words cs = [] := by
  induction cs with
  | nil => exact words_nil
  | cons c cs ih =>
      rw [words_cons_blank (h c List.mem_cons_self)]
      exact ih fun x hx => h x (List.mem_cons_of_mem _ hx)

theorem words_of_isWord {w : List Char} (hw : IsWord w) : words w = [w] := by
  rw [words, List.splitOnP_eq_singleton fun c hc => hw.2 c hc]
  simp [hw.1]

/-- Blank characters in front hold no word. -/
theorem words_blank_append {xs : List Char} (h : ∀ c ∈ xs, isBlank c = true) (ys : List Char) :
    words (xs ++ ys) = words ys := by
  induction xs with
  | nil => rfl
  | cons c xs ih =>
      rw [List.cons_append, words_cons_blank (h c List.mem_cons_self)]
      exact ih fun x hx => h x (List.mem_cons_of_mem _ hx)

/-- Blank characters behind hold no word. -/
theorem words_append_blanks (xs : List Char) {ys : List Char} (h : ∀ c ∈ ys, isBlank c = true) :
    words (xs ++ ys) = words xs := by
  cases ys with
  | nil => simp
  | cons c ys =>
      rw [words_append_blank (h c List.mem_cons_self),
        words_eq_nil fun x hx => h x (List.mem_cons_of_mem _ hx), List.append_nil]

/-- **A word that stands alone** is one of the words, between those before and after. -/
theorem words_split {A w B : List Char} (hw : IsWord w) (hs : Separated A B) :
    words (A ++ w ++ B) = words A ++ w :: words B := by
  have hright : words (w ++ B) = w :: words B := by
    cases B with
    | nil => simp [words_of_isWord hw]
    | cons b B =>
        have hb : isBlank b = true := hs.2 b rfl
        rw [words_append_blank hb, words_of_isWord hw, words_cons_blank hb]
        rfl
  rcases List.eq_nil_or_concat A with rfl | ⟨A', a, hA⟩
  · simpa using hright
  · rw [List.concat_eq_append] at hA
    subst hA
    have ha : isBlank a = true := hs.1 a (by simp)
    rw [List.append_assoc, List.append_assoc, List.singleton_append, words_append_blank ha,
      hright, words_append_blanks A' (by simpa using ha)]

/-- Trimming keeps the words. -/
theorem words_trimChars (cs : List Char) : words (trimChars cs) = words cs := by
  obtain ⟨lead, trail, hcs, hlead, htrail⟩ := exists_blank_trimChars cs
  conv_rhs => rw [hcs]
  rw [List.append_assoc, words_blank_append hlead, words_append_blanks _ htrail]

theorem words_dropWhile (cs : List Char) : words (cs.dropWhile isBlank) = words cs := by
  conv_rhs => rw [← List.takeWhile_append_dropWhile (p := isBlank) (l := cs)]
  exact (words_blank_append (fun c hc => List.mem_takeWhile_imp hc) _).symm

theorem words_rdropWhile (cs : List Char) : words (cs.rdropWhile isBlank) = words cs := by
  conv_rhs => rw [← List.rdropWhile_append_rtakeWhile (p := isBlank) (l := cs)]
  exact (words_append_blanks _ fun c hc => List.mem_rtakeWhile_imp hc).symm

/-- A word stands alone still with more blank characters around. -/
theorem Separated.pad {A B lead trail : List Char} (h : Separated A B)
    (hlead : ∀ c ∈ lead, isBlank c = true) (htrail : ∀ c ∈ trail, isBlank c = true) :
    Separated (lead ++ A) (B ++ trail) := by
  refine ⟨fun c hc => ?_, fun c hc => ?_⟩
  · rcases List.eq_nil_or_concat A with rfl | ⟨L, b, rfl⟩
    · exact hlead c (List.mem_of_getLast? (by simpa using hc))
    · exact h.1 c (by simpa using hc)
  · cases B with
    | nil => exact htrail c (List.mem_of_head? (by simpa using hc))
    | cons b B => exact h.2 c (by simpa using hc)

/-- A word stands alone still when the text around it is trimmed. -/
theorem Separated.trim {A B : List Char} (h : Separated A B) :
    Separated (A.dropWhile isBlank) (B.rdropWhile isBlank) := by
  refine ⟨fun c hc => ?_, head?_rdropWhile h.2⟩
  -- what is left of `A` ends where `A` ends
  have hne : A.dropWhile isBlank ≠ [] := by
    rintro hnil
    simp [hnil] at hc
  refine h.1 c ?_
  rwa [← List.takeWhile_append_dropWhile (p := isBlank) (l := A),
    List.getLast?_append_of_ne_nil _ hne]

/-- Trimming a text around a word trims the text before it and the text after it. -/
theorem trimChars_split {pre kw post : List Char} (hw : IsWord kw) :
    trimChars (pre ++ kw ++ post) = pre.dropWhile isBlank ++ kw ++ post.rdropWhile isBlank := by
  have hhead : ∀ c ∈ (kw ++ post).head?, isBlank c = false := fun c hc =>
    hw.2 c (List.mem_of_head? (by rwa [List.head?_append_of_ne_nil _ hw.1] at hc))
  have hlast : ∀ c ∈ (pre.dropWhile isBlank ++ kw).getLast?, isBlank c = false := fun c hc =>
    hw.2 c (List.mem_of_getLast? (by rwa [List.getLast?_append_of_ne_nil _ hw.1] at hc))
  rw [trimChars_eq_rdropWhile, List.append_assoc, dropWhile_append_of_head _ hhead,
    ← List.append_assoc, rdropWhile_append_of_getLast _ hlast]

/-- The first word of a text that has a character that is not blank, with blank
    characters only before it. -/
theorem exists_first_word {cs : List Char} (h : ¬ ∀ c ∈ cs, isBlank c = true) :
    ∃ A w B, cs = A ++ w ++ B ∧ (∀ c ∈ A, isBlank c = true) ∧ IsWord w ∧
      ∀ c ∈ B.head?, isBlank c = true := by
  set R := cs.dropWhile isBlank with hR
  have hcs : cs = cs.takeWhile isBlank ++ (R.takeWhile (!isBlank ·) ++ R.dropWhile (!isBlank ·)) := by
    rw [List.takeWhile_append_dropWhile, hR, List.takeWhile_append_dropWhile]
  have hA : ∀ c ∈ cs.takeWhile isBlank, isBlank c = true := fun c hc => by
    simpa using List.mem_takeWhile_imp hc
  -- after the blank characters in front comes one that is not blank
  have hRne : R ≠ [] := fun hnil => h fun c hc => by
    simpa using List.dropWhile_eq_nil_iff.1 (hR ▸ hnil) c hc
  have hRhead : isBlank (R.head hRne) = false := @List.head_dropWhile_not _ isBlank cs hRne
  refine ⟨cs.takeWhile isBlank, R.takeWhile (!isBlank ·), R.dropWhile (!isBlank ·),
    by rw [List.append_assoc]; exact hcs, hA, ⟨fun hnil => ?_, fun c hc => ?_⟩, fun c hc => ?_⟩
  · obtain ⟨x, xs, hx⟩ := List.exists_cons_of_ne_nil hRne
    simp only [hx, List.head_cons] at hRhead
    simp [hx, hRhead] at hnil
  · simpa using List.mem_takeWhile_imp hc
  · have hne : R.dropWhile (!isBlank ·) ≠ [] := by
      rintro hnil
      simp [hnil] at hc
    have hd := @List.head_dropWhile_not _ (!isBlank ·) R hne
    rw [List.head?_eq_some_head hne, Option.mem_some_iff] at hc
    subst hc
    simpa using hd

/-- A text with a word has a character that is not blank. -/
theorem not_all_blank_of_ne_nil {cs : List Char} (h : words cs ≠ []) :
    ¬ ∀ c ∈ cs, isBlank c = true := fun hall => h (words_eq_nil hall)

/-- **Every word stands alone**, after as many words as its place in the text. -/
theorem exists_split_of_lt {cs : List Char} {m : Nat} (hm : m < (words cs).length) :
    ∃ A w B, cs = A ++ w ++ B ∧ IsWord w ∧ Separated A B ∧ (words A).length = m := by
  induction m generalizing cs with
  | zero =>
      obtain ⟨A, w, B, rfl, hA, hw, hB⟩ :=
        exists_first_word (not_all_blank_of_ne_nil (List.ne_nil_of_length_pos hm))
      exact ⟨A, w, B, rfl, hw, ⟨fun c hc => hA c (List.mem_of_mem_getLast? hc), hB⟩,
        by rw [words_eq_nil hA]; rfl⟩
  | succ m ih =>
      obtain ⟨A₀, w₀, B₀, rfl, hA₀, hw₀, hB₀⟩ := exists_first_word (not_all_blank_of_ne_nil
        (List.ne_nil_of_length_pos (Nat.lt_of_le_of_lt (Nat.zero_le _) hm)))
      have hsep₀ : Separated A₀ B₀ :=
        ⟨fun c hc => hA₀ c (List.mem_of_mem_getLast? hc), hB₀⟩
      have hwords : words (A₀ ++ w₀ ++ B₀) = w₀ :: words B₀ := by
        rw [words_split hw₀ hsep₀, words_eq_nil hA₀, List.nil_append]
      rw [hwords, List.length_cons] at hm
      obtain ⟨A, w, B, rfl, hw, hsep, hlen⟩ := ih (Nat.lt_of_succ_lt_succ hm)
      -- the later word is not at the front of `B₀`, which starts with a blank character
      have hAne : A ≠ [] := by
        rintro rfl
        obtain ⟨x, xs, hx⟩ := List.exists_cons_of_ne_nil hw.1
        have hblank := hB₀ x (by simp [hx])
        rw [hw.2 x (by simp [hx])] at hblank
        cases hblank
      have hAhead : ∀ c ∈ A.head?, isBlank c = true := fun c hc =>
        hB₀ c (by rw [List.append_assoc, List.head?_append_of_ne_nil _ hAne]; exact hc)
      refine ⟨A₀ ++ w₀ ++ A, w, B, by simp, hw, ⟨fun c hc => hsep.1 c ?_, hsep.2⟩, ?_⟩
      · rwa [List.getLast?_append_of_ne_nil _ hAne] at hc
      · rw [words_split hw₀ ⟨hsep₀.1, hAhead⟩, words_eq_nil hA₀]
        simp [hlen]

end Text

namespace CommandLine

open Text

/-- Moves a span along by `k` positions. -/
def shift (k : Nat) (s : Nat × Nat) : Nat × Nat := (s.1 + k, s.2 + k)

/-- Reading goes on the same way from any position, the spans moved along. -/
theorem go_shift (cs : List Char) (i k : Nat) (st : Option Nat) :
    wordSpans.go cs (i + k) (st.map (· + k)) = (wordSpans.go cs i st).map (shift k) := by
  induction cs generalizing i st with
  | nil => cases st <;> rfl
  | cons c cs ih =>
      cases st with
      | none =>
          simp only [wordSpans.go, Option.map_none]
          split
          · simpa [Nat.add_right_comm] using ih (i + 1) none
          · simpa [Nat.add_right_comm] using ih (i + 1) (some i)
      | some s =>
          simp only [wordSpans.go, Option.map_some]
          split
          · simp [shift, Nat.add_right_comm, ← ih (i + 1) none]
          · simpa [Nat.add_right_comm] using ih (i + 1) (some s)

/-- A blank character ends the word being read, and reading starts afresh after it. -/
theorem go_append_blank {c : Char} (hc : isBlank c = true) (xs ys : List Char) (i : Nat)
    (st : Option Nat) :
    wordSpans.go (xs ++ c :: ys) i st =
      wordSpans.go xs i st ++ wordSpans.go ys (i + xs.length + 1) none := by
  induction xs generalizing i st with
  | nil => cases st <;> simp [wordSpans.go, hc]
  | cons x xs ih =>
      cases st <;> simp only [List.cons_append, wordSpans.go] <;> split <;>
        simp [ih, Nat.add_assoc, Nat.add_comm 1]

/-- Blank characters hold no word. -/
theorem go_blank {cs : List Char} (h : ∀ c ∈ cs, isBlank c = true) (i : Nat) :
    wordSpans.go cs i none = [] := by
  induction cs generalizing i with
  | nil => rfl
  | cons c cs ih =>
      simp only [wordSpans.go, h c List.mem_cons_self, if_true]
      exact ih (fun x hx => h x (List.mem_cons_of_mem _ hx)) _

/-- Characters that are not blank continue the word being read to the end. -/
theorem go_letters {cs : List Char} (h : ∀ c ∈ cs, isBlank c = false) (i s : Nat) :
    wordSpans.go cs i (some s) = [(s, i + cs.length)] := by
  induction cs generalizing i with
  | nil => rfl
  | cons c cs ih =>
      simp only [wordSpans.go, h c List.mem_cons_self, Bool.false_eq_true, if_false]
      rw [ih (fun x hx => h x (List.mem_cons_of_mem _ hx))]
      simp [Nat.add_assoc, Nat.add_comm 1]

theorem go_word {w : List Char} (hw : IsWord w) (i : Nat) :
    wordSpans.go w i none = [(i, i + w.length)] := by
  obtain ⟨x, xs, rfl⟩ := List.exists_cons_of_ne_nil hw.1
  simp only [wordSpans.go, hw.2 x List.mem_cons_self, Bool.false_eq_true, if_false]
  rw [go_letters (fun c hc => hw.2 c (List.mem_cons_of_mem _ hc))]
  simp [Nat.add_assoc, Nat.add_comm 1]

theorem wordSpans_eq_nil {cs : List Char} (h : ∀ c ∈ cs, isBlank c = true) : wordSpans cs = [] :=
  go_blank h 0

@[simp] theorem shift_shift (j k : Nat) (s : Nat × Nat) : shift k (shift j s) = shift (j + k) s := by
  simp [shift, Nat.add_assoc]

/-- **The spans at a word that stands alone**: those before it, its own, and those after
    it, moved along by where they start. -/
theorem wordSpans_split {A w B : List Char} (hw : IsWord w) (hs : Separated A B) :
    wordSpans (A ++ w ++ B) =
      wordSpans A ++ (A.length, A.length + w.length) ::
        (wordSpans B).map (shift (A.length + w.length)) := by
  -- reading from any position at the word, with what follows it
  have hright (i : Nat) : wordSpans.go (w ++ B) i none =
      (i, i + w.length) :: (wordSpans B).map (shift (i + w.length)) := by
    cases B with
    | nil => simp [go_word hw, wordSpans, wordSpans.go]
    | cons b B =>
        have hb : isBlank b = true := hs.2 b rfl
        have hB : wordSpans (b :: B) = (wordSpans B).map (shift 1) := by
          have hmove := go_shift B 0 1 none
          simp only [Nat.zero_add, Option.map_none] at hmove
          simp [wordSpans, wordSpans.go, hb, hmove]
        have hmove := go_shift B 0 (i + w.length + 1) none
        simp only [Nat.zero_add, Option.map_none] at hmove
        rw [go_append_blank hb, go_word hw, hB, List.map_map, hmove]
        simp only [List.singleton_append, List.cons.injEq, true_and]
        refine List.map_congr_left fun s _ => ?_
        simp only [Function.comp_apply, shift_shift]
        congr 1
        omega
  rcases List.eq_nil_or_concat A with rfl | ⟨A', a, hA⟩
  · simpa [wordSpans, wordSpans.go] using hright 0
  · rw [List.concat_eq_append] at hA
    subst hA
    have ha : isBlank a = true := hs.1 a (by simp)
    have hA' : wordSpans (A' ++ [a]) = wordSpans A' := by
      simp [wordSpans, go_append_blank ha, wordSpans.go]
    have hcut : wordSpans (A' ++ [a] ++ w ++ B) =
        wordSpans A' ++ wordSpans.go (w ++ B) (A'.length + 1) none := by
      rw [List.append_assoc, List.append_assoc, List.singleton_append]
      simp [wordSpans, go_append_blank ha]
    rw [hcut, hright, hA']
    simp

theorem slice_append_right (xs ys : List Char) (a b : Nat) :
    slice (xs ++ ys) (a + xs.length) (b + xs.length) = slice ys a b := by
  simp only [slice, List.drop_append, List.drop_eq_nil_of_le (Nat.le_add_left xs.length a),
    List.nil_append, Nat.add_sub_cancel, Nat.add_sub_add_right]

/-- **The spans cut out exactly the words**: by the first word, its span, and the spans
    of the rest, read in the rest. -/
theorem slices_wordSpans (cs : List Char) :
    (wordSpans cs).map (fun s => slice cs s.1 s.2) = words cs := by
  induction hn : cs.length using Nat.strong_induction_on generalizing cs with
  | _ n ih =>
    by_cases hall : ∀ c ∈ cs, isBlank c = true
    · rw [wordSpans_eq_nil hall, words_eq_nil hall]
      rfl
    · obtain ⟨A, w, B, rfl, hA, hw, hB⟩ := exists_first_word hall
      have hsep : Separated A B := ⟨fun c hc => hA c (List.mem_of_mem_getLast? hc), hB⟩
      rw [wordSpans_split hw hsep, words_split hw hsep, wordSpans_eq_nil hA, words_eq_nil hA]
      simp only [List.nil_append, List.map_cons, List.map_map]
      congr 1
      · -- the word itself
        have hcut := slice_append_right A (w ++ B) 0 w.length
        rw [Nat.zero_add, Nat.add_comm w.length] at hcut
        rw [List.append_assoc, hcut]
        simp [slice]
      · -- the words after it, read in what follows it
        have hlen : B.length < n := by
          have := hw.1
          subst hn
          simp only [List.length_append]
          have : 0 < w.length := List.length_pos_iff.2 hw.1
          omega
        rw [← ih B.length hlen B rfl]
        refine List.map_congr_left fun s _ => ?_
        simp only [Function.comp_apply, shift]
        have hcut := slice_append_right (A ++ w) B s.1 s.2
        rwa [List.length_append] at hcut

theorem length_wordSpans (cs : List Char) : (wordSpans cs).length = (words cs).length := by
  rw [← slices_wordSpans cs, List.length_map]

/-- The span of a word that stands alone, at its place among the words. -/
theorem wordSpans_split_getElem? {A w B : List Char} (hw : IsWord w) (hs : Separated A B) :
    (wordSpans (A ++ w ++ B))[(words A).length]? = some (A.length, A.length + w.length) := by
  rw [wordSpans_split hw hs, List.getElem?_append_right (by rw [length_wordSpans]), length_wordSpans,
    Nat.sub_self]
  rfl

end CommandLine

end Tabula
