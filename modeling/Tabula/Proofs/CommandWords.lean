import Tabula.Proofs.Words
import Tabula.Proofs.RoundTrip
/-! # Command words

    A command line names its command by a word right after the separator.  Reading it
    (`splitWord`) tries `select`, `view`, `s` and `v` in turn, each letter matching in any
    case and `s` matching the long s as well, and wants a blank or the end of the line
    after the word.  The dispatch that follows lowers ASCII letters only.  This file states
    the words a command line is made of as predicates on characters:

    * `IsSelectCommand`, `IsViewCommand`: `s` or `select`, `v` or `view`, in any ASCII case;
    * `IsByWord`: a word that starts with `by:`, in any ASCII case;
    * `IsViewKeyword`: the name of a view, in any ASCII case.

    Reading a command word is complete (`splitWord_append`: a command word in front of a
    blank reads as itself, whatever follows) and sound (`splitWord_eq_some`: what reads is
    the text up to a blank or the end).  The long s reads as a letter but names no command,
    since the dispatch lowers ASCII letters only.  The tests of the model are the
    predicates (`isGroupWord_iff`, `keyword?_ofList_eq_some`). -/

namespace Tabula

namespace CommandLine

open Text

/-! ## Characters -/

theorem toLower_eq_self {c : Char} (h : ¬ (65 ≤ c.toNat ∧ c.toNat ≤ 90)) : c.toLower = c := by
  unfold Char.toLower
  rw [dif_neg]
  simpa [UInt32.le_iff_toNat_le] using h

/-- Blank characters have no case. -/
theorem toLower_of_blank {c : Char} (hc : isBlank c = true) : c.toLower = c := by
  apply toLower_eq_self
  simp only [isBlank, Bool.or_eq_true, Bool.and_eq_true, decide_eq_true_eq, beq_iff_eq] at hc
  omega

theorem eq_colon_of_toLower {c : Char} (h : c.toLower = ':') : c = ':' := by
  by_cases hu : 65 ≤ c.toNat ∧ c.toNat ≤ 90
  · -- a capital letter lowers to a small one, not to a colon
    unfold Char.toLower at h
    rw [dif_pos (by simpa [UInt32.le_iff_toNat_le] using hu)] at h
    have := congrArg Char.toNat h
    simp [UInt32.toNat_add] at this
    omega
  · rwa [toLower_eq_self hu] at h

theorem ofList_eq_iff {cs : List Char} {s : String} : String.ofList cs = s ↔ cs = s.toList := by
  constructor
  · rintro rfl
    exact (String.toList_ofList).symm
  · rintro rfl
    exact String.ofList_toList

theorem toLower_ofList (cs : List Char) :
    (String.ofList cs).toLower = String.ofList (cs.map Char.toLower) := by
  rw [← String.toList_inj, String.toLower, String.toList_map, String.toList_ofList,
    String.toList_ofList]

/-! ## Reading a command word -/

theorem letterMatches_of_toLower {l c : Char} (h : c.toLower = l) : letterMatches l c = true := by
  simp [letterMatches, h]

/-- A character matches a letter only as that letter in some case, or as the long s. -/
theorem letterMatches_eq_false {l c : Char} (h : c.toLower ≠ l) (hs : c.toLower.toNat ≠ 0x17F) :
    letterMatches l c = false := by
  have hlong : c.toNat ≠ 0x17F := by
    intro hc
    exact hs (by rw [toLower_eq_self (by omega), hc])
  simp [letterMatches, h, hlong]

theorem letterMatches_blank {l c : Char} (hl : isBlank l = false) (hc : isBlank c = true) :
    letterMatches l c = false := by
  apply letterMatches_eq_false
  · rw [toLower_of_blank hc]
    rintro rfl
    simp [hc] at hl
  · rw [toLower_of_blank hc]
    simp only [isBlank, Bool.or_eq_true, Bool.and_eq_true, decide_eq_true_eq, beq_iff_eq] at hc
    omega

theorem zipWith_letterMatches {front : List Char} :
    (List.zipWith letterMatches (front.map Char.toLower) front).all id = true := by
  induction front with
  | nil => rfl
  | cons c cs ih => simp_all [letterMatches_of_toLower]

/-- A word is not in front when one of its letters is not matched. -/
theorem afterWord_eq_none {w cs : List Char} {i : Nat} (hi : i < w.length)
    (h : ∀ c ∈ cs[i]?, letterMatches w[i] c = false) : afterWord w cs = none := by
  unfold afterWord
  split
  · rfl
  · rename_i hlen
    have hic : i < cs.length := by omega
    have hall : (List.zipWith letterMatches w (cs.take w.length)).all id = false := by
      rw [List.all_eq_false]
      refine ⟨letterMatches w[i] cs[i], ?_, ?_⟩
      · rw [List.mem_iff_getElem]
        exact ⟨i, by simp; omega, by simp⟩
      · simpa using h cs[i] (by simp [List.getElem?_eq_getElem hic])
    simp [hall]

theorem afterWord_append {w front after : List Char} (hlen : front.length = w.length)
    (hm : (List.zipWith letterMatches w front).all id = true)
    (ha : ∀ c ∈ after.head?, isBlank c = true) :
    afterWord w (front ++ after) = some (front, after) := by
  unfold afterWord
  have htake : (front ++ after).take w.length = front := by simp [← hlen]
  have hdrop : (front ++ after).drop w.length = after := by simp [← hlen]
  rw [if_neg (by simp; omega), htake, hdrop, if_pos hm]
  cases after with
  | nil => rfl
  | cons c cs => simp [ha c rfl]

theorem afterWord_eq_some {w cs front after : List Char} (h : afterWord w cs = some (front, after)) :
    cs = front ++ after ∧ ∀ c ∈ after.head?, isBlank c = true := by
  unfold afterWord at h
  dsimp only at h
  split at h
  · cases h
  split at h
  · split at h
    · rename_i hdrop
      cases h
      exact ⟨by simpa [hdrop] using (List.take_append_drop w.length cs).symm, by simp⟩
    · rename_i c rest hdrop
      split at h
      · rename_i hc
        cases h
        exact ⟨(List.take_append_drop _ _).symm, by simpa [hdrop] using hc⟩
      · cases h
  · cases h

/-- Where a word was read, a letter of another word is not matched: the letters differ and
    neither is the long s. -/
theorem letterMatches_at_word {word tail u : List Char} {l : Char} {i : Nat}
    (hu : word.map Char.toLower = u) (hi : i < u.length) (hne : u[i] ≠ l)
    (hs : u[i].toNat ≠ 0x17F) : ∀ c ∈ (word ++ tail)[i]?, letterMatches l c = false := by
  have hiw : i < word.length := by simpa [← hu] using hi
  have hc : word[i].toLower = u[i] := by simp [← hu]
  intro c hcmem
  rw [List.getElem?_append_left hiw, List.getElem?_eq_getElem hiw, Option.mem_def,
    Option.some.injEq] at hcmem
  subst hcmem
  exact letterMatches_eq_false (hc ▸ hne) (hc ▸ hs)

/-- Past a word comes a blank, which matches no letter. -/
theorem letterMatches_at_end {word tail : List Char} {l : Char} {i : Nat} (hlen : word.length = i)
    (ht : ∀ c ∈ tail.head?, isBlank c = true) (hl : isBlank l = false) :
    ∀ c ∈ (word ++ tail)[i]?, letterMatches l c = false := by
  intro c hc
  rw [List.getElem?_append_right (by omega), ← hlen, Nat.sub_self, ← List.head?_eq_getElem?] at hc
  exact letterMatches_blank hl (ht c hc)

/-- A word whose first letter is not the one read first is not in front. -/
theorem afterWord_first_letter {w word tail : List Char} {l a : Char} {ws us : List Char}
    (hw : w = l :: ws) (hu : word.map Char.toLower = a :: us) (hne : a ≠ l) (ha : a.toNat ≠ 0x17F) :
    afterWord w (word ++ tail) = none := by
  subst hw
  exact afterWord_eq_none (i := 0) (by simp) (letterMatches_at_word hu (by simp) hne ha)

/-- A word longer than the one read, whose next letter meets the blank after it, is not in
    front. -/
theorem afterWord_longer {w word tail : List Char} (hlen : word.length < w.length)
    (ht : ∀ c ∈ tail.head?, isBlank c = true) (hl : ∀ c ∈ w[word.length]?, isBlank c = false) :
    afterWord w (word ++ tail) = none :=
  afterWord_eq_none hlen (letterMatches_at_end rfl ht (hl _ (List.getElem?_eq_getElem hlen)))

/-! ## Command words -/

/-- `s` or `select`, in any ASCII case. -/
def IsSelectCommand (w : List Char) : Prop :=
  w.map Char.toLower = "s".toList ∨ w.map Char.toLower = "select".toList

/-- `v` or `view`, in any ASCII case. -/
def IsViewCommand (w : List Char) : Prop :=
  w.map Char.toLower = "v".toList ∨ w.map Char.toLower = "view".toList

instance : DecidablePred IsSelectCommand := fun _ => inferInstanceAs (Decidable (_ ∨ _))

instance : DecidablePred IsViewCommand := fun _ => inferInstanceAs (Decidable (_ ∨ _))

theorem not_isSelectCommand_of_isViewCommand {w : List Char} (h : IsViewCommand w) :
    ¬ IsSelectCommand w := by
  unfold IsViewCommand at h
  unfold IsSelectCommand
  rcases h with h | h <;> simp [h]

theorem commandWords_eq :
    commandWords = [['s', 'e', 'l', 'e', 'c', 't'], ['v', 'i', 'e', 'w'], ['s'], ['v']] := by
  simp [commandWords]

theorem mem_commandWords {w : List Char} (h : IsSelectCommand w ∨ IsViewCommand w) :
    w.map Char.toLower ∈ commandWords := by
  simp only [IsSelectCommand, IsViewCommand] at h
  rcases h with (h | h) | (h | h) <;> simp [commandWords, h]

/-- **A command word in front reads as itself**: the words tried before it fail at a letter
    or at the blank after it. -/
theorem splitWord_append {word tail : List Char} (hw : IsSelectCommand word ∨ IsViewCommand word)
    (ht : ∀ c ∈ tail.head?, isBlank c = true) :
    splitWord (word ++ tail) = some (word, trimChars tail) := by
  have hself : afterWord (word.map Char.toLower) (word ++ tail) = some (word, tail) :=
    afterWord_append (by simp) zipWith_letterMatches ht
  have hmem := mem_commandWords hw
  simp only [commandWords_eq, List.mem_cons, List.not_mem_nil, or_false] at hmem
  simp only [splitWord, commandWords_eq, List.findSome?_cons]
  rcases hmem with hu | hu | hu | hu <;> rw [hu] at hself
  · simp [hself]
  · -- `view`: `select` fails at the first letter
    have h1 : afterWord ['s', 'e', 'l', 'e', 'c', 't'] (word ++ tail) = none :=
      afterWord_first_letter rfl hu (by decide) (by decide)
    simp [hself, h1]
  · -- `s`: `select` fails at the blank after it, `view` at the first letter
    have hlen : word.length = 1 := by simpa using congrArg List.length hu
    have h1 : afterWord ['s', 'e', 'l', 'e', 'c', 't'] (word ++ tail) = none :=
      afterWord_longer (by simp [hlen]) ht (by simp [hlen]; decide)
    have h2 : afterWord ['v', 'i', 'e', 'w'] (word ++ tail) = none :=
      afterWord_first_letter rfl hu (by decide) (by decide)
    simp [hself, h1, h2]
  · -- `v`: `select` and `s` fail at the first letter, `view` at the blank after it
    have hlen : word.length = 1 := by simpa using congrArg List.length hu
    have h1 : afterWord ['s', 'e', 'l', 'e', 'c', 't'] (word ++ tail) = none :=
      afterWord_first_letter rfl hu (by decide) (by decide)
    have h2 : afterWord ['v', 'i', 'e', 'w'] (word ++ tail) = none :=
      afterWord_longer (by simp [hlen]) ht (by simp [hlen]; decide)
    have h3 : afterWord ['s'] (word ++ tail) = none := afterWord_first_letter rfl hu (by decide) (by decide)
    simp [hself, h1, h2, h3]

/-- **What reads as a command word** is the text up to a blank or the end. -/
theorem splitWord_eq_some {cs letters args : List Char} (h : splitWord cs = some (letters, args)) :
    ∃ tail, cs = letters ++ tail ∧ (∀ c ∈ tail.head?, isBlank c = true) ∧ args = trimChars tail := by
  obtain ⟨w, -, hw⟩ := List.exists_of_findSome?_eq_some h
  obtain ⟨⟨front, after⟩, hafter, hpair⟩ := Option.map_eq_some_iff.1 hw
  cases hpair
  exact ⟨after, (afterWord_eq_some hafter).1, (afterWord_eq_some hafter).2, rfl⟩

/-! ## The words `view` looks for -/

/-- A word that starts with `by:`, in any ASCII case. -/
def IsByWord (w : List Char) : Prop := (w.take 3).map Char.toLower = ['b', 'y', ':']

instance : DecidablePred IsByWord := fun _ => inferInstanceAs (Decidable (_ = _))

theorem isGroupWord_iff (w : List Char) : isGroupWord w = true ↔ IsByWord w := by
  match w with
  | [] | [_] | [_, _] => simp [isGroupWord, IsByWord]
  | b :: y :: c :: rest =>
    simp only [isGroupWord, IsByWord, List.take_succ_cons, List.take_zero, List.map_cons,
      List.map_nil, List.cons.injEq, and_true, Bool.and_eq_true, beq_iff_eq, and_assoc]
    constructor
    · rintro ⟨hb, hy, rfl⟩
      exact ⟨hb, hy, by decide⟩
    · rintro ⟨hb, hy, hc⟩
      exact ⟨hb, hy, eq_colon_of_toLower hc⟩

theorem isGroupWord_eq_false {w : List Char} (h : ¬ IsByWord w) : isGroupWord w = false :=
  Bool.eq_false_iff.2 fun hg => h ((isGroupWord_iff w).1 hg)

theorem not_isGroupWord_eq : (fun w => !isGroupWord w) = fun w => !decide (IsByWord w) := by
  funext w
  simp only [← isGroupWord_iff, Bool.decide_eq_true]

/-- A view keyword: the name of a view, in any ASCII case. -/
def IsViewKeyword (w : List Char) : Prop := ∃ v : View, w.map Char.toLower = v.name.toList

theorem keyword?_ofList_eq_some {w : List Char} {v : View} :
    View.keyword? (String.ofList w) = some v ↔ w.map Char.toLower = v.name.toList := by
  unfold View.keyword?
  rw [toLower_ofList]
  simp only [beq_iff_eq, ofList_eq_iff]
  split_ifs with ht hk <;> cases v <;> simp_all [View.name]

theorem keyword?_isSome_iff (w : List Char) :
    (View.keyword? (String.ofList w)).isSome = true ↔ IsViewKeyword w := by
  simp [Option.isSome_iff_exists, keyword?_ofList_eq_some, IsViewKeyword]

theorem keyword?_isSome_eq_false {w : List Char} (h : ¬ IsViewKeyword w) :
    (View.keyword? (String.ofList w)).isSome = false :=
  Bool.eq_false_iff.2 fun hk => h ((keyword?_isSome_iff w).1 hk)

instance : DecidablePred IsViewKeyword := fun w => decidable_of_iff _ (keyword?_isSome_iff w)

theorem not_isByWord_of_isViewKeyword {w : List Char} (h : IsViewKeyword w) : ¬ IsByWord w := by
  obtain ⟨v, hv⟩ := h
  unfold IsByWord
  rw [List.map_take, hv]
  cases v <;> simp [View.name]

theorem isWord_name (v : View) : IsWord v.name.toList := by
  cases v <;> refine ⟨by simp [View.name], ?_⟩ <;> simp [View.name] <;> decide

theorem isViewKeyword_name (v : View) : IsViewKeyword v.name.toList := by
  refine ⟨v, ?_⟩
  cases v <;> simp [View.name]

end CommandLine

end Tabula
