import Mathlib
import Tabula.Proofs.Trim
import Tabula.Proofs.AbsolutePaths
import Tabula.Query.Kanban
import Tabula.Json.Print
import Tabula.Model.Entry
/-! # Typed entries read back

    A cell edited on the input line gets the value `ColumnKind.entry` makes of the typed
    text, and the input line opens on the text `cellText` shows for the cell.  Opening a
    cell and confirming its text as it stands gives the same value back, for every column
    kind and every typed text (`ColumnKind.entry_cellText_entry`), on one assumption about
    doubles: the text a double is printed as reads back as that double (`ReadsBack`).

    * the entry looks at the trimmed text only (`ColumnKind.entry_trim`), and text it keeps
      is the trimmed text, so kept text reads back as itself;
    * `true` and `false`, the texts of the checkbox values, are a ticked and a clear word;
    * a whole number of the 64-bit range is printed in decimal and read back as itself
      (`Entry.whole?_toString`);
    * a double is printed with digits, signs, a point and an exponent mark only, so
      trimming keeps it, and always with a point or an exponent mark
      (`Json.point_or_exponent_double`), so it is never read as a whole number. -/

namespace Tabula

/-! ## Trimming text without blank characters -/

namespace Text

/-- A text without blank characters is trimmed as it stands. -/
theorem trimChars_of_forall {cs : List Char} (h : ∀ c ∈ cs, isBlank c = false) :
    trimChars cs = cs :=
  (trimChars_eq_self_iff cs).2
    ⟨fun c hc => h c (List.mem_of_mem_head? hc), fun c hc => h c (List.mem_of_mem_getLast? hc)⟩

theorem trim_trim (s : String) : trim (trim s) = trim s := by
  simp [trim]

theorem trim_of_forall {s : String} (h : ∀ c ∈ s.toList, isBlank c = false) : trim s = s := by
  rw [trim, trimChars_of_forall h, String.ofList_toList]

theorem isEmpty_of_mem {s : String} {c : Char} (h : c ∈ s.toList) : s.isEmpty = false := by
  rw [Bool.eq_false_iff]
  intro hempty
  rw [String.isEmpty_iff.1 hempty] at h
  cases h

end Text

/-! ## The characters of printed numbers -/

/-- The characters numbers are printed with: digits, the two signs, the point and the
    exponent mark. -/
def NumeralChar (c : Char) : Prop :=
  c.isDigit = true ∨ c = '-' ∨ c = '+' ∨ c = '.' ∨ c = 'e'

instance (c : Char) : Decidable (NumeralChar c) :=
  inferInstanceAs (Decidable (_ ∨ _))

/-- No character of a number is blank. -/
theorem NumeralChar.not_blank {c : Char} (h : NumeralChar c) : Text.isBlank c = false := by
  rcases h with h | rfl | rfl | rfl | rfl
  · simp only [Char.isDigit, Bool.and_eq_true, decide_eq_true_eq] at h
    have h48 : 48 ≤ c.toNat := h.1
    have h57 : c.toNat ≤ 57 := h.2
    simp only [Text.isBlank, Bool.or_eq_false_iff, Bool.and_eq_false_iff, decide_eq_false_iff_not,
      beq_eq_false_iff_ne]
    omega
  all_goals decide

/-- A text of numeral characters only. -/
def Numeral (s : String) : Prop := ∀ c ∈ s.toList, NumeralChar c

-- decided character by character with `List.all`, which `decide` runs the same way whatever
-- other instances for bounded quantifiers are in scope
instance (s : String) : Decidable (Numeral s) :=
  decidable_of_iff (s.toList.all fun c => decide (NumeralChar c)) (by simp [Numeral])

namespace Numeral

theorem append {s t : String} (hs : Numeral s) (ht : Numeral t) : Numeral (s ++ t) := by
  intro c hc
  rw [String.toList_append, List.mem_append] at hc
  exact hc.elim (hs c) (ht c)

theorem take {s : String} (hs : Numeral s) (n : Nat) : Numeral (s.take n).toString := by
  intro c hc
  simp only [String.Slice.toString_eq, String.toList_copy_take] at hc
  exact hs c (List.mem_of_mem_take hc)

theorem drop {s : String} (hs : Numeral s) (n : Nat) : Numeral (s.drop n).toString := by
  intro c hc
  simp only [String.Slice.toString_eq, String.toList_copy_drop] at hc
  exact hs c (List.mem_of_mem_drop hc)

/-- Trimming keeps a numeral text as it stands. -/
theorem trim_eq {s : String} (hs : Numeral s) : Text.trim s = s :=
  Text.trim_of_forall fun c hc => (hs c hc).not_blank

end Numeral

theorem numeral_ofDigits {s : String} (h : s.toList = Nat.toDigits 10 n) : Numeral s := by
  intro c hc
  rw [h] at hc
  exact .inl (Nat.isDigit_of_mem_toDigits (by decide) (by decide) hc)

theorem numeral_natToString (n : Nat) : Numeral (toString n) :=
  numeral_ofDigits Nat.toList_repr

/-- A whole number is printed with digits and a minus sign only. -/
theorem numeral_toString (n : Int) : Numeral (toString n) := by
  cases n with
  | ofNat m => exact numeral_natToString m
  | negSucc m =>
    change Numeral ("-" ++ (m + 1).repr)
    exact Numeral.append (by decide) (numeral_natToString (m + 1))

/-! ## Printed doubles -/

namespace Json

theorem numeral_zeros (n : Nat) : Numeral (zeros n) := by
  intro c hc
  simp only [zeros, String.toList_ofList] at hc
  rw [List.eq_of_mem_replicate hc]
  exact .inl rfl

/-- An exponent is a sign and a whole number. -/
theorem numeral_exponentText (e : Int) : Numeral (exponentText e) := by
  unfold exponentText
  split_ifs <;> exact Numeral.append (by decide) (numeral_toString e)

/-- Digits laid out with a point or an exponent are a numeral text. -/
theorem numeral_layoutDigits {ds : String} (hds : Numeral ds) (point : Int) :
    Numeral (layoutDigits ds point) := by
  -- the pieces: digits split at a place, and an exponent with its sign
  have hsplit (n : Nat) : Numeral ((ds.take n).toString ++ "." ++ (ds.drop n).toString) :=
    ((hds.take n).append (by decide)).append (hds.drop n)
  unfold layoutDigits
  dsimp only
  split_ifs
  · exact (hds.append (numeral_zeros _)).append (by decide)
  · exact hsplit _
  · exact (Numeral.append (by decide) (numeral_zeros _)).append hds
  · exact (hds.append (by decide)).append (numeral_exponentText _)
  · exact ((hsplit 1).append (by decide)).append (numeral_exponentText _)

/-- Laid-out digits always have a point or an exponent mark. -/
theorem point_or_exponent_layoutDigits (ds : String) (point : Int) :
    '.' ∈ (layoutDigits ds point).toList ∨ 'e' ∈ (layoutDigits ds point).toList := by
  unfold layoutDigits
  dsimp only
  split_ifs <;> simp [String.toList_append]

theorem isNaN_or_isInf_of_isFinite {x : Float} (hx : x.isFinite = true) :
    (x.isNaN || x.isInf) = false := by
  simp only [Float.isFinite, Float.Model.isFinite] at hx
  simp only [Float.isNaN, Float.isInf, Float.Model.isNaN, Float.Model.isInf]
  cases h : x.toModel.unpack <;> simp_all [Float.Model.UnpackedFloat.isFinite,
    Float.Model.UnpackedFloat.isNaN, Float.Model.UnpackedFloat.isInf]

theorem numeral_doubleText {x : Float} (hx : x.isFinite = true) :
    Numeral (doubleText x) := by
  unfold doubleText
  rw [isNaN_or_isInf_of_isFinite hx, if_neg Bool.false_ne_true]
  split
  · -- a zero, with its sign
    dsimp only
    split_ifs <;> decide
  · rename_i b _
    obtain ⟨c, k⟩ := b.shortest
    dsimp only
    refine Numeral.append ?_ (numeral_layoutDigits (numeral_natToString c) _)
    split_ifs <;> decide

/-- **A double is printed with a point or an exponent mark.** -/
theorem point_or_exponent_double {x : Float} (hx : x.isFinite = true) :
    '.' ∈ (doubleText x).toList ∨ 'e' ∈ (doubleText x).toList := by
  unfold doubleText
  rw [isNaN_or_isInf_of_isFinite hx, if_neg Bool.false_ne_true]
  split
  · left
    dsimp only
    split_ifs <;> simp
  · rename_i b _
    obtain ⟨c, k⟩ := b.shortest
    dsimp only
    simp only [String.toList_append, List.mem_append]
    rcases point_or_exponent_layoutDigits (toString c) (k + (toString c).length) with h | h
    · exact .inl (.inr h)
    · exact .inr (.inr h)

end Json

/-! ## Whole numbers read back -/

namespace Entry

/-- The digits of a number read back as the number. -/
theorem digitsValue_toDigits (n : Nat) : digitsValue (Nat.toDigits 10 n) = n := by
  unfold digitsValue
  simp only [Nat.mul_comm 10]
  exact foldl_toDigits n

theorem allDigits_toDigits (n : Nat) : allDigits (Nat.toDigits 10 n) = true := by
  simp only [allDigits, Bool.and_eq_true, Bool.not_eq_true', List.isEmpty_eq_false_iff,
    List.all_eq_true]
  exact ⟨Nat.toDigits_ne_nil, fun c hc => Nat.isDigit_of_mem_toDigits (by decide) (by decide) hc⟩

/-- A text that starts with a digit has no sign. -/
theorem sign_of_isDigit {c : Char} (h : c.isDigit = true) (cs : List Char) :
    sign (c :: cs) = (false, c :: cs) := by
  have hminus : c ≠ '-' := by
    rintro rfl
    exact absurd h (by decide)
  have hplus : c ≠ '+' := by
    rintro rfl
    exact absurd h (by decide)
  unfold sign
  split <;> simp_all

theorem signedDigits?_toDigits (n : Nat) : signedDigits? (Nat.toDigits 10 n) = some n := by
  obtain ⟨c, cs, hcs⟩ := List.exists_cons_of_ne_nil (Nat.toDigits_ne_nil (n := n) (b := 10))
  have hc : c.isDigit = true :=
    Nat.isDigit_of_mem_toDigits (by decide) (by decide) (hcs ▸ List.mem_cons_self)
  unfold signedDigits?
  rw [hcs, sign_of_isDigit hc, ← hcs]
  simp [allDigits_toDigits, digitsValue_toDigits]

theorem signedDigits?_minus_toDigits (n : Nat) :
    signedDigits? ('-' :: Nat.toDigits 10 n) = some (-(n : Int)) := by
  unfold signedDigits?
  rw [show sign ('-' :: Nat.toDigits 10 n) = (true, Nat.toDigits 10 n) from rfl]
  simp [allDigits_toDigits, digitsValue_toDigits]

/-- **A whole number of the 64-bit range** is read back from its decimal text. -/
theorem whole?_toString {n : Int} (hlow : -(2 ^ 63) ≤ n) (hhigh : n < 2 ^ 63) :
    whole? (toString n) = some n := by
  have hdigits : signedDigits? (toString n).toList = some n := by
    cases n with
    | ofNat m =>
      change signedDigits? m.repr.toList = _
      rw [Nat.toList_repr, signedDigits?_toDigits]
      rfl
    | negSucc m =>
      change signedDigits? ("-" ++ (m + 1).repr).toList = _
      rw [String.toList_append, Nat.toList_repr]
      exact signedDigits?_minus_toDigits (m + 1)
  have hrange : (decide (-Int.pow 2 63 ≤ n) && decide (n < Int.pow 2 63)) = true := by
    simp only [Bool.and_eq_true, decide_eq_true_eq]
    exact ⟨hlow, hhigh⟩
  simp only [whole?, hdigits, Option.filter_some, hrange, if_true]

theorem range_of_whole? {s : String} {n : Int} (h : whole? s = some n) :
    -(2 ^ 63) ≤ n ∧ n < 2 ^ 63 := by
  unfold whole? at h
  obtain ⟨-, hrange⟩ := Option.filter_eq_some_iff.1 h
  simp only [Bool.and_eq_true, decide_eq_true_eq] at hrange
  exact hrange

/-- A character that is no sign stays in what follows the sign. -/
theorem mem_sign_snd {cs : List Char} {c : Char} (hc : c ∈ cs) (hminus : c ≠ '-')
    (hplus : c ≠ '+') : c ∈ (sign cs).2 := by
  unfold sign
  split <;> simp_all

/-- A text holding a character that is neither a digit nor a sign is no signed run of
    digits. -/
theorem signedDigits?_eq_none {cs : List Char} {c : Char} (hc : c ∈ cs)
    (hdigit : c.isDigit = false) (hminus : c ≠ '-') (hplus : c ≠ '+') :
    signedDigits? cs = none := by
  have hmem := mem_sign_snd hc hminus hplus
  unfold signedDigits?
  rcases hs : sign cs with ⟨negative, ds⟩
  rw [hs] at hmem
  have hall : allDigits ds = false := by
    simp only [allDigits, Bool.and_eq_false_iff, Bool.not_eq_false', List.all_eq_false]
    exact .inr ⟨c, hmem, by simp [hdigit]⟩
  simp [hall]

/-- A text with a point or an exponent mark is no whole number. -/
theorem whole?_eq_none_of_mem {s : String} (h : '.' ∈ s.toList ∨ 'e' ∈ s.toList) :
    whole? s = none := by
  unfold whole?
  rcases h with h | h
  · rw [signedDigits?_eq_none h (by decide) (by decide) (by decide)]
    rfl
  · rw [signedDigits?_eq_none h (by decide) (by decide) (by decide)]
    rfl

/-- A decimal is read only as a finite double. -/
theorem isFinite_of_decimal? {s : String} {x : Float} (h : decimal? s = some x) :
    x.isFinite = true := by
  unfold decimal? at h
  simp only [Option.ite_none_left_eq_some, Option.bind_eq_some_iff,
    Option.ite_none_right_eq_some, Option.some.injEq] at h
  obtain ⟨-, e, -, hfinite, rfl⟩ := h
  exact hfinite

/-- Text read as a whole number is not empty. -/
theorem isEmpty_of_whole? {s : String} {n : Int} (h : whole? s = some n) : s.isEmpty = false := by
  rw [Bool.eq_false_iff]
  intro hempty
  rw [String.isEmpty_iff.1 hempty] at h
  cases h

end Entry

/-! ## Entries of every kind -/

/-- The text a double is printed as reads back as that double. -/
def ReadsBack (x : Float) : Prop :=
  Entry.decimal? (Json.Number.text (.float x)) = some x

instance (x : Float) : Decidable (ReadsBack x) := inferInstanceAs (Decidable (_ = _))

namespace ColumnKind

/-- The entry looks at the trimmed text only. -/
theorem entry_trim (kind : ColumnKind) (typed : String) :
    kind.entry (Text.trim typed) = kind.entry typed := by
  simp only [entry, Text.trim_trim]

/-- The five ways an entry is made: nothing for blank text, the trimmed text, a checkbox
    value, a whole number or a double of the text of a number column. -/
theorem entry_cases (kind : ColumnKind) (typed : String) :
    kind.entry typed = .null ∨ kind.entry typed = .str (Text.trim typed) ∨
      (kind = .checkbox ∧ ∃ b, kind.entry typed = .bool b) ∨
      (kind = .number ∧ ∃ n, kind.entry typed = .num (.int n) ∧
        Entry.whole? (Text.trim typed) = some n) ∨
      (kind = .number ∧ ∃ x, kind.entry typed = .num (.float x) ∧
        Entry.decimal? (Text.trim typed) = some x) := by
  unfold entry
  dsimp only
  by_cases hempty : (Text.trim typed).isEmpty = true
  · rw [if_pos hempty]
    exact .inl rfl
  · rw [if_neg hempty]
    cases kind with
    | number =>
      cases Entry.whole? (Text.trim typed) with
      | some n => exact .inr (.inr (.inr (.inl ⟨rfl, n, rfl, rfl⟩)))
      | none =>
        cases Entry.decimal? (Text.trim typed) with
        | some x => exact .inr (.inr (.inr (.inr ⟨rfl, x, rfl, rfl⟩)))
        | none => exact .inr (.inl rfl)
    | checkbox =>
      dsimp only
      split_ifs
      · exact .inr (.inr (.inl ⟨rfl, true, rfl⟩))
      · exact .inr (.inr (.inl ⟨rfl, false, rfl⟩))
      · exact .inr (.inl rfl)
    | text | date | select => exact .inr (.inl rfl)

/-- A whole number of the 64-bit range is read back from its decimal text. -/
theorem entry_number_int {n : Int} (hlow : -(2 ^ 63) ≤ n) (hhigh : n < 2 ^ 63) :
    ColumnKind.number.entry (toString n) = .num (.int n) := by
  have hwhole := Entry.whole?_toString hlow hhigh
  simp only [entry, (numeral_toString n).trim_eq, Entry.isEmpty_of_whole? hwhole, hwhole]
  rfl

/-- A finite double that reads back is read back from its printed text, and not as a whole
    number. -/
theorem entry_number_float {x : Float} (hread : ReadsBack x) (hx : x.isFinite = true) :
    ColumnKind.number.entry (Json.Number.text (.float x)) = .num (.float x) := by
  unfold ReadsBack Json.Number.text at hread
  have hpoint := Json.point_or_exponent_double hx
  have hne : (Json.doubleText x).isEmpty = false :=
    hpoint.elim Text.isEmpty_of_mem Text.isEmpty_of_mem
  simp only [entry, Json.Number.text, (Json.numeral_doubleText hx).trim_eq, hne,
    Entry.whole?_eq_none_of_mem hpoint, hread]
  rfl

/-- The checkbox values show as a ticked and a clear word. -/
theorem entry_checkbox_bool (b : Bool) :
    ColumnKind.checkbox.entry (cellText (some (.bool b))) = .bool b := by
  have hwords : ∀ w ∈ ["true", "false"],
      Text.trim w = w ∧ w.isEmpty = false ∧ w.map Char.toLower = w := by
    decide +kernel
  cases b
  · obtain ⟨htrim, hne, hlower⟩ := hwords "false" (by simp)
    simp only [cellText, Json.Value.compact, entry, Bool.false_eq_true, if_false, htrim, hne,
      hlower]
    rw [if_neg (by decide), if_pos (by decide)]
  · obtain ⟨htrim, hne, hlower⟩ := hwords "true" (by simp)
    simp only [cellText, Json.Value.compact, entry, Bool.false_eq_true, if_true, if_false,
      htrim, hne, hlower]
    rw [if_pos (by decide)]

/-- Confirming the text a cell shows gives the cell its value back, for every column kind and
    every typed text, when a double the text makes reads back from its printed text. -/
theorem entry_cellText_entry (kind : ColumnKind) (typed : String)
    (hread : ∀ x, kind.entry typed = .num (.float x) → ReadsBack x) :
    kind.entry (cellText (some (kind.entry typed))) = kind.entry typed := by
  rcases entry_cases kind typed with h | h | ⟨rfl, b, h⟩ | ⟨rfl, n, h, hwhole⟩ | ⟨rfl, x, h, hdec⟩
  · -- an empty cell shows no text
    rw [h]
    rfl
  · -- kept text is already trimmed
    rw [h, cellText, entry_trim, h]
  · rw [h]
    exact entry_checkbox_bool b
  · rw [h]
    obtain ⟨hlow, hhigh⟩ := Entry.range_of_whole? hwhole
    exact entry_number_int hlow hhigh
  · rw [h]
    exact entry_number_float (hread x h) (Entry.isFinite_of_decimal? hdec)

/-- The tenth typed in a number column reads back. -/
theorem entry_cellText_entry_tenth :
    (∀ x, ColumnKind.number.entry "0.1" = .num (.float x) → ReadsBack x) ∧
      ColumnKind.number.entry (cellText (some (ColumnKind.number.entry "0.1"))) =
        ColumnKind.number.entry "0.1" := by
  have htenth : Entry.decimal? (Text.trim "0.1") = some ((Entry.decimal? "0.1").getD 0) := by
    decide +kernel
  have hread : ∀ x, ColumnKind.number.entry "0.1" = .num (.float x) → ReadsBack x := by
    intro x hx
    rcases entry_cases .number "0.1" with h | h | ⟨hk, -⟩ | ⟨-, n, h, -⟩ | ⟨-, y, h, hdec⟩
    · rw [h] at hx; cases hx
    · rw [h] at hx; cases hx
    · cases hk
    · rw [h] at hx; cases hx
    · rw [h] at hx
      cases hx
      rw [htenth, Option.some.injEq] at hdec
      rw [← hdec]
      decide +kernel
  exact ⟨hread, entry_cellText_entry .number "0.1" hread⟩

end ColumnKind

end Tabula
