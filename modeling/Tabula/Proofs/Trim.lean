import Mathlib.Data.List.DropRight
import Tabula.Text.Blank
/-! # Trimming blank characters

    Trimming drops blank characters from the front and then from the back, so it is
    `List.rdropWhile` after `List.dropWhile` (`trimChars_eq_rdropWhile`), and everything
    here follows from the library's lemmas about those two.

    `Trimmed`: no blank character at either end.  The trimmed texts are exactly those
    that trimming leaves alone (`trimChars_eq_self_iff`), and what trimming gives is
    trimmed (`trimmed_trimChars`), so trimming twice is trimming once.  Trimming keeps
    characters of the text (`mem_of_mem_trimChars`), and forgets blank characters at the ends
    only (`trimChars_cons_blank`, `trimChars_cons_of_not_blank`): every text is its trimmed
    form with blank characters around it (`exists_blank_trimChars`). -/

namespace Tabula.Text

/-- No blank character at either end. -/
def Trimmed (cs : List Char) : Prop :=
  (∀ c ∈ cs.head?, isBlank c = false) ∧ ∀ c ∈ cs.getLast?, isBlank c = false

instance (cs : List Char) : Decidable (Trimmed cs) :=
  inferInstanceAs (Decidable (_ ∧ _))

theorem trimChars_eq_rdropWhile (cs : List Char) :
    trimChars cs = (cs.dropWhile isBlank).rdropWhile isBlank := rfl

/-- A nonempty text that starts and ends with a character that is not blank. -/
theorem trimmed_of_ends {cs : List Char} (hhead : ∀ h : cs ≠ [], isBlank (cs.head h) = false)
    (hlast : ∀ h : cs ≠ [], isBlank (cs.getLast h) = false) : Trimmed cs := by
  refine ⟨fun c hc => ?_, fun c hc => ?_⟩
  · have hne : cs ≠ [] := by
      rintro rfl
      simp at hc
    rw [Option.mem_def, List.head?_eq_some_head hne, Option.some.injEq] at hc
    exact hc ▸ hhead hne
  · have hne : cs ≠ [] := by
      rintro rfl
      simp at hc
    rw [Option.mem_def, List.getLast?_eq_some_getLast hne, Option.some.injEq] at hc
    exact hc ▸ hlast hne

/-- What trimming gives is trimmed: the front is what `dropWhile` left, and the back
    what `rdropWhile` left. -/
theorem trimmed_trimChars (cs : List Char) : Trimmed (trimChars cs) := by
  rw [trimChars_eq_rdropWhile]
  refine trimmed_of_ends (fun h => ?_) (fun h => ?_)
  · -- the front is that of the text after `dropWhile`, of which it is a prefix
    rw [(List.rdropWhile_prefix isBlank _).head h]
    exact List.head_dropWhile_not _ _
  · simpa using List.rdropWhile_last_not isBlank (cs.dropWhile isBlank) h

theorem trimChars_eq_self_iff (cs : List Char) : trimChars cs = cs ↔ Trimmed cs := by
  refine ⟨fun h => h ▸ trimmed_trimChars cs, fun ⟨hhead, hlast⟩ => ?_⟩
  have hdrop : cs.dropWhile isBlank = cs := by
    cases cs with
    | nil => rfl
    | cons c cs => exact List.dropWhile_cons_of_neg (by simpa using hhead c rfl)
  rw [trimChars_eq_rdropWhile, hdrop, List.rdropWhile_eq_self_iff]
  intro hne
  simpa using hlast _ (List.getLast?_eq_some_getLast hne)

@[simp] theorem trimChars_trimChars (cs : List Char) : trimChars (trimChars cs) = trimChars cs :=
  (trimChars_eq_self_iff _).2 (trimmed_trimChars cs)

/-- Trimming keeps characters of the text: it takes a prefix of a suffix. -/
theorem mem_of_mem_trimChars {cs : List Char} {c : Char} (h : c ∈ trimChars cs) : c ∈ cs :=
  (List.dropWhile_suffix isBlank).subset ((List.rdropWhile_prefix isBlank _).subset h)

theorem trimChars_eq_nil_iff (cs : List Char) : trimChars cs = [] ↔ ∀ c ∈ cs, isBlank c = true := by
  rw [trimChars_eq_rdropWhile, List.rdropWhile_eq_nil_iff]
  constructor
  · intro h
    rw [← List.dropWhile_eq_nil_iff]
    -- what `dropWhile` left is all blank, and its first character is not
    cases hd : cs.dropWhile isBlank with
    | nil => rfl
    | cons c rest =>
        have hc := @List.head_dropWhile_not Char isBlank cs (by simp [hd])
        simp only [hd, List.head_cons] at hc
        simpa [hc] using h c (by simp [hd])
  · intro h c hc
    rw [List.dropWhile_eq_nil_iff.2 h] at hc
    cases hc

/-- A blank character in front is trimmed away. -/
theorem trimChars_cons_blank {c : Char} (hc : isBlank c = true) (cs : List Char) :
    trimChars (c :: cs) = trimChars cs := by
  simp [trimChars_eq_rdropWhile, hc]

/-- A character in front that is not blank stays, and only the back is trimmed. -/
theorem trimChars_cons_of_not_blank {c : Char} (hc : isBlank c = false) (cs : List Char) :
    trimChars (c :: cs) = c :: cs.rdropWhile isBlank := by
  rw [trimChars_eq_rdropWhile, List.dropWhile_cons_of_neg (by simp [hc])]
  -- the back of `c :: cs` is dropped within `cs`, since `c` itself stays
  simp only [List.rdropWhile, List.reverse_cons, List.dropWhile_append]
  split
  · rename_i hnil
    have hnil : (cs.reverse.dropWhile isBlank) = [] := List.isEmpty_iff.1 hnil
    simp [List.dropWhile_cons_of_neg, hc, hnil]
  · simp

section Ends

variable {α : Type} {p : α → Bool}

/-- Dropping from the front stops at a kept item that follows. -/
theorem dropWhile_append_of_head (xs : List α) {ys : List α} (h : ∀ c ∈ ys.head?, p c = false) :
    (xs ++ ys).dropWhile p = xs.dropWhile p ++ ys := by
  rw [List.dropWhile_append]
  split
  · rename_i hnil
    rw [List.isEmpty_iff.1 hnil, List.nil_append]
    cases ys with
    | nil => rfl
    | cons c cs => simp [h c rfl]
  · rfl

/-- Dropping from the back goes through a tail of dropped items only. -/
theorem rdropWhile_append_of_forall (xs : List α) {ys : List α} (h : ∀ c ∈ ys, p c = true) :
    (xs ++ ys).rdropWhile p = xs.rdropWhile p := by
  simp only [List.rdropWhile, List.reverse_append]
  rw [List.dropWhile_append_of_pos (by simpa using h)]

/-- Dropping from the back stops at a kept item before. -/
theorem rdropWhile_append_of_getLast {xs : List α} (ys : List α) (h : ∀ c ∈ xs.getLast?, p c = false) :
    (xs ++ ys).rdropWhile p = xs ++ ys.rdropWhile p := by
  have hxs : xs.reverse.dropWhile p = xs.reverse := by
    cases hx : xs.reverse with
    | nil => rfl
    | cons c cs =>
      have hc : p c = false := h c (by simp [← List.head?_reverse, hx])
      simp [hc]
  simp only [List.rdropWhile, List.reverse_append, List.dropWhile_append, hxs]
  split <;> simp_all

/-- What is left after dropping from the back starts as the list did. -/
theorem head?_rdropWhile {cs : List α} {q : α → Prop} (h : ∀ c ∈ cs.head?, q c) :
    ∀ c ∈ (cs.rdropWhile p).head?, q c := by
  intro c hc
  have hne : cs.rdropWhile p ≠ [] := by
    rintro hnil
    simp [hnil] at hc
  refine h c ?_
  rwa [← List.rdropWhile_append_rtakeWhile (p := p) (l := cs), List.head?_append_of_ne_nil _ hne]

end Ends

theorem trimChars_blank_append {xs : List Char} (h : ∀ c ∈ xs, isBlank c = true) (ys : List Char) :
    trimChars (xs ++ ys) = trimChars ys := by
  rw [trimChars_eq_rdropWhile, List.dropWhile_append_of_pos (by simpa using h),
    ← trimChars_eq_rdropWhile]

theorem trimChars_append_blanks (xs : List Char) {ys : List Char} (h : ∀ c ∈ ys, isBlank c = true) :
    trimChars (xs ++ ys) = trimChars xs := by
  rw [trimChars_eq_rdropWhile, List.dropWhile_append]
  split
  · -- all of `xs` is blank, and so is what follows
    rename_i hnil
    rw [List.dropWhile_eq_nil_iff.2 (by simpa using h), trimChars_eq_rdropWhile,
      List.isEmpty_iff.1 hnil]
  · rw [rdropWhile_append_of_forall _ h, ← trimChars_eq_rdropWhile]

theorem trimChars_dropWhile (cs : List Char) : trimChars (cs.dropWhile isBlank) = trimChars cs := by
  rw [trimChars_eq_rdropWhile, List.dropWhile_idempotent, trimChars_eq_rdropWhile]

theorem trimChars_rdropWhile (cs : List Char) : trimChars (cs.rdropWhile isBlank) = trimChars cs := by
  conv_rhs => rw [← List.rdropWhile_append_rtakeWhile (p := isBlank) (l := cs)]
  exact (trimChars_append_blanks _ fun c hc => List.mem_rtakeWhile_imp hc).symm

/-- A text is its trimmed form with blank characters in front and behind. -/
theorem exists_blank_trimChars (cs : List Char) :
    ∃ lead trail, cs = lead ++ trimChars cs ++ trail ∧ (∀ c ∈ lead, isBlank c = true) ∧
      ∀ c ∈ trail, isBlank c = true := by
  refine ⟨cs.takeWhile isBlank, (cs.dropWhile isBlank).rtakeWhile isBlank, ?_,
    fun c hc => List.mem_takeWhile_imp hc, fun c hc => List.mem_rtakeWhile_imp hc⟩
  rw [List.append_assoc, trimChars_eq_rdropWhile, List.rdropWhile_append_rtakeWhile,
    List.takeWhile_append_dropWhile]

end Tabula.Text
