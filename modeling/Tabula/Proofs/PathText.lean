import Tabula.Proofs.Trim
import Tabula.Command.Path
/-! # Writing and reading paths

    Reading a path trims it, splits it at colons and trims every segment, so the paths it
    gives carry segments that are not empty, hold no colon and have no blank character at
    either end (`IsSegment`); an absolute path has one to four of them, going up goes at
    least one level, and a downward path of two segments never starts with the
    placeholder, which reads as the column alone (`Path.Canonical`).

    These are exactly the paths that some text reads as (`exists_parse_iff_canonical`):
    reading gives canonical paths (`canonical_of_parse`), and the canonical text of a
    canonical path reads back as that path (`parse_display`) and has nothing to trim
    (`trim_display`).  Hence `display` is a canonical printer on what reading gives
    (`parse_display_of_parse`).

    The segment lemmas rest on the library's `List.splitOn_intercalate`: splitting the
    segments joined by colons at the colons gives them back when none holds a colon. -/

namespace Tabula

open Text

namespace Path

/-- A segment as a path carries it: not empty, without a colon, and with no blank
    character at either end. -/
def IsSegment (s : String) : Prop := s.toList ≠ [] ∧ ':' ∉ s.toList ∧ Trimmed s.toList

instance (s : String) : Decidable (IsSegment s) :=
  inferInstanceAs (Decidable (_ ∧ _ ∧ _))

theorem isSegment_placeholder : IsSegment placeholder :=
  ⟨by simp [placeholder], by simp [placeholder], by simp [placeholder, Trimmed]; decide⟩

end Path

/-- The segments a downward path writes after its leading colon. -/
def Target.segments : Target → List String
  | .one a => [a]
  | .two a b => [a, b]
  | .columnOnly b => [placeholder, b]
  | .three a b c => [a, b, c]

/-- The targets that reading gives: segments as paths carry them, and a target of two
    segments that does not start with the placeholder. -/
def Target.Canonical : Target → Prop
  | .one a => Path.IsSegment a
  | .two a b => Path.IsSegment a ∧ Path.IsSegment b ∧ a ≠ placeholder
  | .columnOnly b => Path.IsSegment b
  | .three a b c => Path.IsSegment a ∧ Path.IsSegment b ∧ Path.IsSegment c

namespace Path

/-- The paths that reading gives: one to four segments from the top, going up at least
    one level, or a canonical target below the current workspace. -/
def Canonical : Path → Prop
  | .absolute segments =>
    segments ≠ [] ∧ segments.length ≤ maxAbsoluteSegments ∧ ∀ s ∈ segments, IsSegment s
  | .ascend levels => 0 < levels
  | .descend target => target.Canonical

end Path

theorem Target.Canonical.segments {t : Target} (h : t.Canonical) :
    ∀ s ∈ t.segments, Path.IsSegment s := by
  cases t with
  | one a => simpa [Target.segments, Target.Canonical] using h
  | two a b => simpa [Target.segments] using ⟨h.1, h.2.1⟩
  | columnOnly b => simpa [Target.segments, Target.Canonical, Path.isSegment_placeholder] using h
  | three a b c => simpa [Target.segments, Target.Canonical] using h

/-! ## Joining and splitting at colons -/

/-- No piece of a text split at a character holds that character. -/
theorem not_mem_of_mem_splitOn {cs piece : List Char} {x : Char} (h : piece ∈ cs.splitOn x) :
    x ∉ piece := by
  induction cs generalizing piece with
  | nil =>
      rw [List.splitOn_nil, List.mem_singleton] at h
      subst h
      simp
  | cons c cs ih =>
      rw [List.splitOn_cons_eq_if_modifyHead] at h
      split at h
      · rcases List.mem_cons.1 h with rfl | h
        · simp
        · exact ih h
      · rename_i hc
        obtain ⟨first, more, hsplit⟩ := List.exists_cons_of_ne_nil (List.splitOn_ne_nil x cs)
        rw [hsplit, List.modifyHead_cons] at h
        rcases List.mem_cons.1 h with rfl | h
        · -- the first piece is `c` in front of the first piece of the rest
          have hfirst := ih (hsplit ▸ List.mem_cons_self)
          simp only [List.mem_cons, not_or]
          exact ⟨fun hx => hc (by simp [hx]), hfirst⟩
        · exact ih (hsplit ▸ List.mem_cons_of_mem _ h)

theorem head?_intercalate {sep l : List Char} {ls : List (List Char)} (hl : l ≠ []) :
    (sep.intercalate (l :: ls)).head? = l.head? := by
  cases ls with
  | nil => rw [List.intercalate_singleton]
  | cons m ls =>
      rw [List.intercalate_cons_cons, List.append_assoc]
      exact List.head?_append_of_ne_nil l hl

theorem intercalate_ne_nil {sep l : List Char} {ls : List (List Char)} (hl : l ≠ []) :
    sep.intercalate (l :: ls) ≠ [] := by
  intro h
  have hhead : (sep.intercalate (l :: ls)).head? = l.head? := head?_intercalate hl
  rw [h, List.head?_nil, eq_comm, List.head?_eq_none_iff] at hhead
  exact hl hhead

theorem getLast?_intercalate {sep : List Char} {ls : List (List Char)}
    (hls : ∀ l ∈ ls, l ≠ []) : (sep.intercalate ls).getLast? = ls.getLast?.bind List.getLast? := by
  induction ls with
  | nil => rfl
  | cons l ls ih =>
      cases ls with
      | nil => simp
      | cons m ls =>
          have hm : m ≠ [] := hls m (by simp)
          rw [List.intercalate_cons_cons, List.getLast?_append_of_ne_nil _ (intercalate_ne_nil hm),
            ih fun l hl => hls l (List.mem_cons_of_mem _ hl), List.getLast?_cons_cons]

/-- Segments joined by colons have no blank character at either end. -/
theorem trimmed_intercalate {segs : List String} (hne : segs ≠ [])
    (hsegs : ∀ s ∈ segs, Path.IsSegment s) :
    Trimmed ([':'].intercalate (segs.map String.toList)) := by
  obtain ⟨first, rest, rfl⟩ := List.exists_cons_of_ne_nil hne
  have hfirst := hsegs first List.mem_cons_self
  refine ⟨?_, fun c hc => ?_⟩
  · rw [List.map_cons, head?_intercalate hfirst.1]
    exact hfirst.2.2.1
  · have hnonempty : ∀ l ∈ (first :: rest).map String.toList, l ≠ [] := by
      intro l hl
      obtain ⟨s, hs, rfl⟩ := List.mem_map.1 hl
      exact (hsegs s hs).1
    rw [getLast?_intercalate hnonempty, Option.mem_def, Option.bind_eq_some_iff] at hc
    obtain ⟨l, hl, hc⟩ := hc
    obtain ⟨s, hs, rfl⟩ := List.mem_map.1 (List.mem_of_getLast? hl)
    exact (hsegs s hs).2.2.2 c hc

namespace Path

/-- The segments that splitting gives are well formed, and there are one to `most` of
    them. -/
theorem segmentsOf_eq_ok {cs : List Char} {most : Nat} {segs : List String}
    (h : segmentsOf cs most = .ok segs) :
    segs ≠ [] ∧ segs.length ≤ most ∧ ∀ s ∈ segs, IsSegment s := by
  unfold segmentsOf at h
  dsimp only at h
  split at h
  · cases h
  · rename_i hempty
    split at h
    · cases h
    · rename_i hlen
      cases h
      refine ⟨by simp [List.splitOn_ne_nil], by simpa using hlen, fun s hs => ?_⟩
      obtain ⟨piece, hpiece, rfl⟩ := List.mem_map.1 hs
      have hfull : trimChars piece ≠ [] := fun hnil =>
        List.any_eq_false.1 (Bool.not_eq_true _ ▸ hempty) _ hs (by rw [hnil]; rfl)
      refine ⟨?_, ?_, ?_⟩ <;> rw [String.toList_ofList]
      · exact hfull
      · exact fun hc => not_mem_of_mem_splitOn hpiece (mem_of_mem_trimChars hc)
      · exact trimmed_trimChars piece

/-- Splitting well-formed segments joined by colons gives them back. -/
theorem segmentsOf_intercalate {segs : List String} {most : Nat} (hne : segs ≠ [])
    (hlen : segs.length ≤ most) (hsegs : ∀ s ∈ segs, IsSegment s) :
    segmentsOf ([':'].intercalate (segs.map String.toList)) most = .ok segs := by
  have hsplit : ([':'].intercalate (segs.map String.toList)).splitOn ':' =
      segs.map String.toList :=
    List.splitOn_intercalate ':' (by simpa using fun s hs => (hsegs s hs).2.1)
      (by simpa using hne)
  -- every segment is already trimmed
  have htrim : (segs.map String.toList).map (fun seg => String.ofList (trimChars seg)) = segs := by
    rw [List.map_map]
    conv_rhs => rw [← List.map_id segs]
    refine List.map_congr_left fun s hs => ?_
    rw [Function.comp_apply, (trimChars_eq_self_iff _).2 (hsegs s hs).2.2, String.ofList_toList,
      id]
  have hfull : (segs.any fun s => s.isEmpty) = false := List.any_eq_false.2 fun s hs => by
    simpa [String.toList_eq_nil_iff] using (hsegs s hs).1
  unfold segmentsOf
  simp only [hsplit, htrim, hfull]
  rw [if_neg (by simp), if_neg (by omega)]

/-- Well-formed segments joined by colons start with a character that is not a colon. -/
theorem exists_intercalate_eq_cons {segs : List String} (hne : segs ≠ [])
    (hsegs : ∀ s ∈ segs, IsSegment s) :
    ∃ x tail, [':'].intercalate (segs.map String.toList) = x :: tail ∧ x ≠ ':' := by
  obtain ⟨first, rest, rfl⟩ := List.exists_cons_of_ne_nil hne
  obtain ⟨hfne, hfcolon, -⟩ := hsegs first List.mem_cons_self
  obtain ⟨x, xs, hx⟩ := List.exists_cons_of_ne_nil hfne
  have hhead : ([':'].intercalate ((first :: rest).map String.toList)).head? = some x := by
    rw [List.map_cons, head?_intercalate hfne, hx, List.head?_cons]
  obtain ⟨tail, htail⟩ := List.head?_eq_some_iff.1 hhead
  exact ⟨x, tail, htail, fun h => hfcolon (by simp [hx, h])⟩

/-! ## The canonical text -/

theorem toList_display_absolute (segments : List String) :
    (display (.absolute segments)).toList = [':'].intercalate (segments.map String.toList) := by
  simp [display]

theorem toList_display_ascend (levels : Nat) :
    (display (.ascend levels)).toList = List.replicate levels ':' := by
  simp [display]

theorem toList_display_descend (t : Target) :
    (display (.descend t)).toList = ':' :: [':'].intercalate (t.segments.map String.toList) := by
  cases t <;> simp [display, Target.segments, String.toList_append, List.intercalate_cons_cons,
    placeholder]

/-- The canonical text of a canonical path has no blank character at either end. -/
theorem trimmed_display {p : Path} (hp : p.Canonical) : Trimmed p.display.toList := by
  cases p with
  | absolute segments =>
      rw [toList_display_absolute]
      exact trimmed_intercalate hp.1 hp.2.2
  | ascend levels =>
      rw [toList_display_ascend]
      refine trimmed_of_ends (fun h => ?_) (fun h => ?_)
      · rw [List.head_replicate]
        decide
      · rw [List.getLast_replicate]
        decide
  | descend t =>
      rw [toList_display_descend]
      have hsegs := hp.segments
      obtain ⟨first, rest, hfr⟩ : ∃ first rest, t.segments = first :: rest := by
        cases t <;> exact ⟨_, _, rfl⟩
      have hne : [':'].intercalate (t.segments.map String.toList) ≠ [] := by
        rw [hfr, List.map_cons]
        exact intercalate_ne_nil (hsegs first (by simp [hfr])).1
      -- the leading colon is not blank, and the back is that of the joined segments
      refine ⟨fun c hc => ?_, ?_⟩
      · rw [List.head?_cons, Option.mem_some_iff] at hc
        subst hc
        decide
      · rw [← List.singleton_append, List.getLast?_append_of_ne_nil _ hne]
        exact (trimmed_intercalate (by simp [hfr]) hsegs).2

/-- The canonical text of a canonical path has nothing to trim. -/
theorem trim_display {p : Path} (hp : p.Canonical) : Text.trim p.display = p.display := by
  rw [Text.trim, (trimChars_eq_self_iff _).2 (trimmed_display hp), String.ofList_toList]

/-! ## Reading -/

/-- Reading trims the text first, so only the trimmed text counts. -/
theorem parse_ofList_trimChars (cs : List Char) :
    parse (String.ofList (trimChars cs)) = parse (String.ofList cs) := by
  simp only [parse, String.toList_ofList, trimChars_trimChars]

/-- A blank text is no path. -/
theorem trimChars_ne_nil_of_parse {cs : List Char} {p : Path} (h : parse (String.ofList cs) = .ok p) :
    trimChars cs ≠ [] := by
  intro hnil
  simp [parse, hnil] at h

/-- A text that reads as a path trims to a text that is not empty and reads as that path. -/
theorem exists_trimChars_eq_cons {cs : List Char} {p : Path} (h : parse (String.ofList cs) = .ok p) :
    ∃ c rest, trimChars cs = c :: rest ∧ parse (String.ofList (c :: rest)) = .ok p := by
  obtain ⟨c, rest, hcs⟩ := List.exists_cons_of_ne_nil (trimChars_ne_nil_of_parse h)
  exact ⟨c, rest, hcs, by rw [← hcs, parse_ofList_trimChars, h]⟩

/-- **Reading gives canonical paths**: trimmed segments without colons, as many as the
    form allows, and a downward pair that starts with the placeholder reads as the
    column alone. -/
theorem canonical_of_parse {s : String} {p : Path} (h : parse s = .ok p) : p.Canonical := by
  unfold parse at h
  dsimp only at h
  split at h
  · cases h
  · rename_i hempty
    split at h
    · -- colons only: going up one level for each
      cases h
      show 0 < _
      cases hcs : trimChars s.toList with
      | nil => simp [hcs] at hempty
      | cons c cs => simp
    · split at h
      · -- a leading colon: one to three segments below the current workspace
        rename_i rest _
        split at h
        · cases h
        · rename_i a hseg
          cases h
          exact (segmentsOf_eq_ok hseg).2.2 a (by simp)
        · rename_i a b hseg
          have hab := (segmentsOf_eq_ok hseg).2.2
          cases h
          split
          · exact hab b (by simp)
          · exact ⟨hab a (by simp), hab b (by simp), by assumption⟩
        · rename_i a b c hseg
          have habc := (segmentsOf_eq_ok hseg).2.2
          cases h
          exact ⟨habc a (by simp), habc b (by simp), habc c (by simp)⟩
        · cases h
      · -- anything else: one to four segments from the top
        cases hseg : segmentsOf (trimChars s.toList) maxAbsoluteSegments with
        | error e => simp [hseg, Except.map] at h
        | ok segs =>
            simp only [hseg, Except.map, Except.ok.injEq] at h
            subst h
            exact segmentsOf_eq_ok hseg

/-- **Reading back the canonical text** of a canonical path gives that path. -/
theorem parse_display {p : Path} (hp : p.Canonical) : parse p.display = .ok p := by
  have htrim := (trimChars_eq_self_iff _).2 (trimmed_display hp)
  unfold parse
  dsimp only
  rw [htrim]
  cases p with
  | absolute segments =>
      obtain ⟨hne, hlen, hsegs⟩ := hp
      obtain ⟨x, tail, hjoin, hx⟩ := exists_intercalate_eq_cons hne hsegs
      rw [toList_display_absolute, hjoin]
      simp only [List.isEmpty_cons, List.all_cons, hx, decide_false, Bool.false_and,
        Bool.false_eq_true, if_false]
      -- the text does not start with a colon, so it is read from the top
      split
      · rename_i rest hrest
        exact absurd (List.cons.inj hrest).1 hx
      · rw [← hjoin, segmentsOf_intercalate hne hlen hsegs]
        rfl
  | ascend levels =>
      have hlevels : levels ≠ 0 := Nat.pos_iff_ne_zero.1 hp
      simp [toList_display_ascend, hlevels]
  | descend t =>
      have hsegs := hp.segments
      have hne : t.segments ≠ [] := by
        cases t <;> simp [Target.segments]
      obtain ⟨x, tail, hjoin, hx⟩ := exists_intercalate_eq_cons hne hsegs
      have hlen : t.segments.length ≤ maxRelativeSegments := by
        cases t <;> simp [Target.segments, maxRelativeSegments]
      rw [toList_display_descend, hjoin]
      simp only [List.isEmpty_cons, List.all_cons, hx, decide_false, decide_true,
        Bool.false_and, Bool.true_and, Bool.false_eq_true, if_false]
      rw [← hjoin, segmentsOf_intercalate hne hlen hsegs]
      -- the segments give back the target, the placeholder pair included
      cases t with
      | one a => rfl
      | two a b =>
          simp only [Target.segments]
          rw [if_neg hp.2.2]
      | columnOnly b => rfl
      | three a b c => rfl

/-- The paths that some text reads as are exactly the canonical ones. -/
theorem exists_parse_iff_canonical (p : Path) : (∃ s, parse s = .ok p) ↔ p.Canonical :=
  ⟨fun ⟨_, h⟩ => canonical_of_parse h, fun hp => ⟨p.display, parse_display hp⟩⟩

/-- **Writing a path that was read gives a text that reads as the same path**, with
    nothing around it to trim: `display` is a canonical printer on what reading gives. -/
theorem parse_display_of_parse {s : String} {p : Path} (h : parse s = .ok p) :
    parse p.display = .ok p ∧ Text.trim p.display = p.display :=
  ⟨parse_display (canonical_of_parse h), trim_display (canonical_of_parse h)⟩

/-- A downward pair that starts with the placeholder, written with blanks around its
    segments, reads as the column alone and is written back as `:_:Status`. -/
theorem parse_display_of_parse_columnOnly :
    parse " :_ : Status " = .ok (.descend (.columnOnly "Status")) ∧
      parse (Path.descend (.columnOnly "Status")).display = .ok (.descend (.columnOnly "Status")) ∧
      Text.trim (Path.descend (.columnOnly "Status")).display =
        (Path.descend (.columnOnly "Status")).display :=
  have h : parse " :_ : Status " = .ok (.descend (.columnOnly "Status")) := by decide
  ⟨h, parse_display_of_parse h⟩

end Path

end Tabula
