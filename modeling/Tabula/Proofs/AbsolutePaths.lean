import Tabula.Proofs.Steps
import Tabula.Model.Sample
/-! # Absolute paths

    An absolute path of two or more segments names a place from the top: a workspace, a
    table of it and a cursor.  What it names depends on the workspaces alone and not on
    where the user stands.  Only a path of one segment, read inside a workspace, looks at
    the current workspace first.  The view and the grouping column are those of the
    navigation the path is resolved from.

    * `resolveAbsolute_cons_cons`: a path of two or more segments resolves as from home,
      with the view and the grouping column of the navigation;
    * `positionOf?_decimal`: the decimal numeral of a position, with any leading zeros,
      names that position; `positionOf?_eq_some_iff`: and nothing else names one, since a
      run of digits of value at least one is such a numeral (`exists_replicate_toDigits`);
    * `absolute_paths_ignore_navigation`: two navigations resolve such a path to the same
      place, or both to none; going to it twice is going to it once; and `i:j:r:c` goes to
      the `j`-th table of the `i`-th workspace, with the cursor the row and column tokens
      name. -/

namespace Tabula

/-! ## Decimal positions -/

/-- The decimal numeral of a number after some leading zeros. -/
def decimal (zeros n : Nat) : String :=
  String.ofList (List.replicate zeros '0' ++ Nat.toDigits 10 n)

/-- Reading the decimal digits of a number back, one after the other, gives the number. -/
theorem foldl_toDigits (n : Nat) :
    (Nat.toDigits 10 n).foldl (fun acc c => acc * 10 + (c.toNat - '0'.toNat)) 0 = n := by
  induction n using Nat.strongRecOn with
  | ind n ih =>
    -- the last digit comes off the end, and the others read `n / 10`
    rw [Nat.toDigits_eq_if (by decide)]
    split
    · rename_i hn
      simp [Nat.toNat_digitChar_sub_48_of_lt_ten hn]
    · rename_i hn
      have hlast : (n % 10).digitChar.toNat - 48 = n % 10 :=
        Nat.toNat_digitChar_sub_48_of_lt_ten (Nat.mod_lt n (by decide))
      rw [List.foldl_append, ih (n / 10) (by omega)]
      simp only [List.foldl_cons, List.foldl_nil]
      rw [show '0'.toNat = 48 from rfl, hlast]
      omega

/-- Leading zeros read as nothing. -/
theorem foldl_replicate_zero (z : Nat) :
    (List.replicate z '0').foldl (fun acc c => acc * 10 + (c.toNat - '0'.toNat)) 0 = 0 := by
  induction z with
  | zero => rfl
  | succ z ih => simpa [List.replicate_succ] using ih

/-- A decimal numeral is a nonempty run of ASCII digits. -/
theorem isPositional_decimal (z n : Nat) : isPositional (decimal z n) = true := by
  have hdigit (c : Char) (hc : c ∈ List.replicate z '0' ++ Nat.toDigits 10 n) :
      '0' ≤ c ∧ c ≤ '9' := by
    rcases List.mem_append.1 hc with hz | hd
    · rw [List.eq_of_mem_replicate hz]
      exact ⟨Char.le_refl _, by decide⟩
    · have h := Nat.isDigit_of_mem_toDigits (by decide) (by decide) hd
      simp only [Char.isDigit, Bool.and_eq_true, decide_eq_true_eq] at h
      exact ⟨h.1, h.2⟩
  have hne : decimal z n ≠ "" := by
    rw [decimal, Ne, String.ofList_eq_empty_iff]
    exact List.append_ne_nil_of_right_ne_nil _ (List.ne_nil_of_length_pos Nat.length_toDigits_pos)
  simp only [isPositional, String.all_bool_eq, Bool.and_eq_true, Bool.not_eq_true',
    List.all_eq_true, decide_eq_true_eq]
  refine ⟨by simpa [String.isEmpty_iff] using hne, fun c hc => ?_⟩
  rw [decimal, String.toList_ofList] at hc
  simpa using hdigit c hc

/-- **The decimal numeral of a position**, with any leading zeros, names that position. -/
theorem positionOf?_decimal {z n : Nat} (h1 : 1 ≤ n) (h2 : n ≤ maxPosition) :
    positionOf? (decimal z n) = some n := by
  have hval : (decimal z n).foldl (fun acc c => acc * 10 + (c.toNat - '0'.toNat)) 0 = n := by
    rw [String.foldl_eq_foldl_toList, decimal, String.toList_ofList, List.foldl_append,
      foldl_replicate_zero, foldl_toDigits]
  simp only [positionOf?, isPositional_decimal, if_true, hval]
  exact if_pos ⟨h1, h2⟩

/-- An ASCII digit is a character of code from 48 to 57. -/
theorem asciiDigit_iff_toNat {c : Char} : ('0' ≤ c ∧ c ≤ '9') ↔ 48 ≤ c.toNat ∧ c.toNat ≤ 57 := by
  simp only [Char.le_def, UInt32.le_iff_toNat_le]
  rfl

/-- The digit a character stands for, written back, is the character. -/
theorem digitChar_toNat_sub_48 {c : Char} (h : '0' ≤ c ∧ c ≤ '9') :
    Nat.digitChar (c.toNat - 48) = c := by
  rw [asciiDigit_iff_toNat] at h
  apply Char.toNat_inj.mp
  rw [Nat.toNat_digitChar_of_lt_ten (by omega)]
  omega

/-- Reading more digits after a number that is not zero extends its decimal numeral by those
    digits. -/
theorem toDigits_append_foldl {acc : Nat} {cs : List Char} (hacc : 0 < acc)
    (hdigits : ∀ c ∈ cs, '0' ≤ c ∧ c ≤ '9') :
    Nat.toDigits 10 acc ++ cs =
      Nat.toDigits 10 (cs.foldl (fun acc c => acc * 10 + (c.toNat - '0'.toNat)) acc) := by
  induction cs generalizing acc with
  | nil => simp
  | cons c cs ih =>
    have hc := hdigits c (List.mem_cons_self ..)
    have hlt : c.toNat - 48 < 10 := by rw [asciiDigit_iff_toNat] at hc; omega
    -- the digit `c` is the last digit of `10 * acc + c`
    have hstep : Nat.toDigits 10 acc ++ [c] = Nat.toDigits 10 (acc * 10 + (c.toNat - 48)) := by
      conv_lhs => rw [← digitChar_toNat_sub_48 hc, ← Nat.toDigits_of_lt_base hlt]
      rw [Nat.toDigits_append_toDigits (by decide) hacc hlt, Nat.mul_comm]
    calc Nat.toDigits 10 acc ++ c :: cs = (Nat.toDigits 10 acc ++ [c]) ++ cs := by simp
      _ = _ := by
        rw [hstep, ih (by omega) (fun d hd => hdigits d (List.mem_cons_of_mem c hd))]
        rfl

/-- A run of ASCII digits of value at least one is the decimal numeral of its value after some
    leading zeros. -/
theorem exists_replicate_toDigits {cs : List Char} (hdigits : ∀ c ∈ cs, '0' ≤ c ∧ c ≤ '9')
    (hpos : 0 < cs.foldl (fun acc c => acc * 10 + (c.toNat - '0'.toNat)) 0) :
    ∃ z, cs = List.replicate z '0' ++
      Nat.toDigits 10 (cs.foldl (fun acc c => acc * 10 + (c.toNat - '0'.toNat)) 0) := by
  induction cs with
  | nil => simp at hpos
  | cons c cs ih =>
    by_cases hc : c = '0'
    · -- a leading zero reads as nothing
      subst hc
      obtain ⟨z, hz⟩ := ih (fun d hd => hdigits d (List.mem_cons_of_mem _ hd)) hpos
      exact ⟨z + 1, by rw [List.replicate_succ, List.cons_append, List.foldl_cons]; exact congrArg _ hz⟩
    · -- the first digit that is not zero starts the numeral
      have hd := hdigits c (List.mem_cons_self ..)
      have hne : c.toNat ≠ 48 := fun h => hc (Char.toNat_inj.mp h)
      have hpos' : 0 < c.toNat - 48 := by rw [asciiDigit_iff_toNat] at hd; omega
      have hlt : c.toNat - 48 < 10 := by rw [asciiDigit_iff_toNat] at hd; omega
      have h := toDigits_append_foldl hpos' (fun d hd' => hdigits d (List.mem_cons_of_mem c hd'))
      rw [Nat.toDigits_of_lt_base hlt, digitChar_toNat_sub_48 hd] at h
      exact ⟨0, by simpa using h⟩

/-- **What a positional token names.**  A text names the position `n` exactly when it is
    the decimal numeral of `n` after any number of leading zeros, and `n` is from one to
    the largest machine word: zero, a number past `2^64 - 1`, a sign, a blank or any other
    character name nothing. -/
theorem positionOf?_eq_some_iff (t : String) (n : Nat) :
    positionOf? t = some n ↔ (∃ z, t = decimal z n) ∧ 1 ≤ n ∧ n ≤ maxPosition := by
  constructor
  · intro h
    simp only [positionOf?] at h
    split at h
    · rename_i hpos
      split at h
      · rename_i hrange
        obtain rfl := Option.some.inj h
        have hdigits : ∀ c ∈ t.toList, '0' ≤ c ∧ c ≤ '9' := by
          simp only [isPositional, String.all_bool_eq, Bool.and_eq_true, List.all_eq_true,
            decide_eq_true_eq] at hpos
          simpa using hpos.2
        rw [String.foldl_eq_foldl_toList] at hrange ⊢
        obtain ⟨z, hz⟩ := exists_replicate_toDigits hdigits hrange.1
        exact ⟨⟨z, by rw [decimal, ← hz, String.ofList_toList]⟩, hrange⟩
      · simp at h
    · simp at h
  · rintro ⟨⟨z, rfl⟩, h1, h2⟩
    exact positionOf?_decimal h1 h2

/-- The position of an item of a list whose length fits in a machine word fits too. -/
theorem le_maxPosition_of_getElem? {α : Type} {l : List α} {i : Nat} {a : α}
    (hl : l.length ≤ maxPosition) (hi : 1 ≤ i) (h : l[i - 1]? = some a) : i ≤ maxPosition := by
  have hlt := (List.getElem?_eq_some_iff.1 h).1
  omega

/-- A workspace named by the decimal numeral of its position. -/
theorem findWorkspace?_decimal (ws : List Workspace) {z i : Nat} (h1 : 1 ≤ i)
    (h2 : i ≤ maxPosition) : findWorkspace? ws (decimal z i) = ws[i - 1]? := by
  simp [findWorkspace?, isPositional_decimal, positionOf?_decimal h1 h2, atPosition?,
    Nat.pos_iff_ne_zero.1 h1]

/-- A table named by the decimal numeral of its position. -/
theorem findTableIn?_decimal (w : Workspace) {z j : Nat} (h1 : 1 ≤ j)
    (h2 : j ≤ maxPosition) : findTableIn? w (decimal z j) = w.tables[j - 1]? := by
  simp [findTableIn?, isPositional_decimal, positionOf?_decimal h1 h2, atPosition?,
    Nat.pos_iff_ne_zero.1 h1]

/-! ## Paths of two or more segments -/

namespace Navigation

/-- Where a navigation stands: workspace, table and cursor. -/
def place (n : Navigation) : Option Key × Option Key × Cursor := (n.workspace, n.table, n.cursor)

/-- A navigation's place with the view and the grouping column of another. -/
def within (m n : Navigation) : Navigation := { m with view := n.view, groupBy := n.groupBy }

@[simp] theorem place_within (m n : Navigation) : (m.within n).place = m.place := rfl

/-- The view and the grouping column of a navigation placed within another are the other's. -/
@[simp] theorem within_within (m m' n : Navigation) : m.within (m'.within n) = m.within n := rfl

end Navigation

/-- **A path of two or more segments** resolves as from home, with the view and the
    grouping column of the navigation it is resolved from. -/
theorem resolveAbsolute_cons_cons (ws : List Workspace) (nav : Navigation) (a b : String)
    (more : List String) :
    resolveAbsolute ws nav (a :: b :: more) =
      (resolveAbsolute ws {} (a :: b :: more)).map (·.within nav) := by
  simp only [resolveAbsolute, Option.bind_eq_bind]
  cases findWorkspace? ws a with
  | none => rfl
  | some w =>
    simp only [Option.bind_some]
    cases findTableIn? w b with
    | none => rfl
    | some t => rfl

/-- A path of two or more segments, as a list of segments. -/
theorem exists_cons_cons {segments : List String} (h : 2 ≤ segments.length) :
    ∃ a b more, segments = a :: b :: more := by
  match segments, h with
  | a :: b :: more, _ => exact ⟨a, b, more, rfl⟩

/-- Going to a path of two or more segments twice is going to it once. -/
theorem execute_absolute_twice (d : Document) (a b : String) (more : List String) :
    let go : Action := .select (some (.absolute (a :: b :: more)))
    (d.execute go).execute go = d.execute go := by
  intro go
  have hres (nav : Navigation) := resolveAbsolute_cons_cons d.workspaces nav a b more
  cases hhome : resolveAbsolute d.workspaces {} (a :: b :: more) with
  | none =>
    -- neither navigation resolves the path, and nothing changes
    have hstay : d.execute go = d := by
      simp only [go, Document.execute_select_some, Document.navigate_eq, resolvePath]
      rw [hres d.nav, hhome, Option.map_none]
    rw [hstay, hstay]
  | some m =>
    -- the second resolution lands on the place of the first, with the view it kept
    have hgo (e : Document) (he : e.workspaces = d.workspaces) :
        e.execute go = e.withNav (m.within e.nav) := by
      simp only [go, Document.execute_select_some, Document.navigate_eq, resolvePath, he]
      rw [hres e.nav, hhome, Option.map_some]
    rw [hgo d rfl, hgo (d.withNav (m.within d.nav)) rfl, Document.withNav_nav,
      Navigation.within_within, Document.withNav_withNav]

/-- **Absolute paths ignore the navigation.**  A path of two or more segments resolves to
    the same place from any two navigations, or from neither, and each result keeps the
    view and the grouping column of its own navigation; so going to such a path twice is
    going to it once.  The path `i:j:r:c`, positions written in decimal with any leading
    zeros, goes to the `j`-th table of the `i`-th workspace, with the cursor at the
    positions the row and column tokens name, whatever the navigation was.  The lists the
    positions count in are those of a running program, so their lengths fit in a machine
    word (`maxPosition`). -/
theorem absolute_paths_ignore_navigation :
    (∀ (ws : List Workspace) (n₁ n₂ : Navigation) (segments : List String),
      2 ≤ segments.length →
      (resolvePath ws n₁ (.absolute segments)).map Navigation.place =
          (resolvePath ws n₂ (.absolute segments)).map Navigation.place ∧
        ∀ m ∈ resolvePath ws n₁ (.absolute segments), m.view = n₁.view ∧ m.groupBy = n₁.groupBy) ∧
    (∀ (d : Document) (segments : List String), 2 ≤ segments.length →
      (d.execute (.select (some (.absolute segments)))).execute
          (.select (some (.absolute segments))) =
        d.execute (.select (some (.absolute segments)))) ∧
    (∀ (d : Document) (zi zj i j : Nat) (w : Workspace) (t : Table) (rc : List String),
      d.workspaces.length ≤ maxPosition → 1 ≤ i → d.workspaces[i - 1]? = some w →
      w.tables.length ≤ maxPosition → 1 ≤ j → w.tables[j - 1]? = some t →
      (d.execute (.select (some (.absolute (decimal zi i :: decimal zj j :: rc))))).nav =
        { d.nav with
          workspace := some w.key
          table := some t.key
          cursor := ⟨rc[0]?.bind positionOf?, rc[1]?.bind positionOf?⟩ }) := by
  refine ⟨fun ws n₁ n₂ segments hlen => ?_, fun d segments hlen => ?_,
    fun d zi zj i j w t rc hws hi hw hts hj ht => ?_⟩
  · obtain ⟨a, b, more, rfl⟩ := exists_cons_cons hlen
    simp only [resolvePath, resolveAbsolute_cons_cons ws n₁, resolveAbsolute_cons_cons ws n₂,
      Option.map_map]
    refine ⟨rfl, fun m hm => ?_⟩
    obtain ⟨m₀, -, rfl⟩ := Option.map_eq_some_iff.1 (Option.mem_def.1 hm)
    exact ⟨rfl, rfl⟩
  · obtain ⟨a, b, more, rfl⟩ := exists_cons_cons hlen
    exact execute_absolute_twice d a b more
  · -- both positions are within the lists, so within a machine word
    have hi' := le_maxPosition_of_getElem? hws hi hw
    have hj' := le_maxPosition_of_getElem? hts hj ht
    simp only [Document.execute_select_some, Document.navigate_eq, resolvePath, resolveAbsolute,
      Option.bind_eq_bind, findWorkspace?_decimal _ hi hi', hw, Option.bind_some,
      findTableIn?_decimal _ hj hj', ht]
    rfl

/-- From anywhere, `01:3:2:1` goes to `Notes`, the third table of `Alpha`, at row 2 and
    column 1. -/
theorem absolute_paths_ignore_navigation_sampleNotes :
    (Document.sample.execute (.select (some (.absolute [decimal 1 1, decimal 0 3, "2", "1"])))).nav =
      { Document.sample.nav with
        workspace := some ⟨"w:alpha"⟩
        table := some ⟨"t:notes"⟩
        cursor := ⟨positionOf? "2", positionOf? "1"⟩ } :=
  absolute_paths_ignore_navigation.2.2 Document.sample 1 0 1 3 _ _ ["2", "1"]
    (by simp [Document.sample, maxPosition]) (by decide) rfl
    (by simp [maxPosition]) (by decide) rfl

end Tabula
