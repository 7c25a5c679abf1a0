import Tabula.Proofs.BackupNames
import Tabula.Proofs.Stamps
import Tabula.Store.FileTree
/-! # The order of backups

    The name of a backup and its order key agree: the `n`-th name made in a second of a
    four-digit year has the key `(backup-YYYYMMDD-HHMMSS, n)`, so two names made at different
    seconds or with different numbers have different keys, and the listing, which sorts
    by time and then by key, puts a later number first among backups of the same time.

    * `splitAtByte?_append`: a text splits after the bytes of any first part of it, since a
      character ends there;
    * `utf8ByteSize_backupStem`: a stem is 22 characters of one byte each, so it fills the
      22 bytes the key splits after;
    * `parseWord32?_toDigits`: a numeral below `2 ^ 32` reads back as its number;
    * `orderKey_numbered`: the key of the `n`-th name, from `orderKey_bare` and
      `orderKey_suffixed`, the two ways a key is read;
    * `listedBefore_iff`: the listing order is the order of time, then of stem, then of
      number, all highest first, so it is total and transitive, and a sorted listing puts a
      backup first whenever the other is not listed before it (`sublist_mergeSort_listedBefore`);
    * `Folder.list_eq_map_mergeSort`: what the listing returns is a sort by that order. -/

namespace Tabula

/-! ## Bytes of text -/

/-- A digit, a dash or a sign takes one byte. -/
theorem utf8Size_of_stampChar {c : Char} (h : c.isDigit = true ∨ c = '-' ∨ c = '+') :
    c.utf8Size = 1 := by
  rcases h with h | rfl | rfl
  · rw [Char.isDigit_iff_toNat] at h
    rw [Char.utf8Size_eq_one_iff, UInt32.le_iff_toNat_le]
    have h9 : '9'.toNat = 57 := rfl
    have hval : c.val.toNat = c.toNat := rfl
    simp only [h9] at h
    rw [hval]
    exact Nat.le_trans h.2 (by decide)
  · decide
  · decide

theorem utf8ByteSize_ofList_cons (c : Char) (l : List Char) :
    (String.ofList (c :: l)).utf8ByteSize = c.utf8Size + (String.ofList l).utf8ByteSize := by
  rw [String.ofList_cons, String.utf8ByteSize_append, String.utf8ByteSize_singleton]

/-- Text of one-byte characters has as many bytes as characters. -/
theorem utf8ByteSize_ofList_of_ascii {l : List Char} (h : ∀ c ∈ l, c.utf8Size = 1) :
    (String.ofList l).utf8ByteSize = l.length := by
  induction l with
  | nil => rfl
  | cons c l ih =>
    rw [utf8ByteSize_ofList_cons, h c (List.mem_cons_self ..),
      ih (fun d hd => h d (List.mem_cons_of_mem c hd)), List.length_cons, Nat.add_comm]

/-- **A text splits after the bytes of its first part**: a character ends there, since
    every character before it takes at least one byte. -/
theorem splitAtByte?_append (base rest : List Char) :
    splitAtByte? (String.ofList base).utf8ByteSize (base ++ rest) = some (base, rest) := by
  induction base with
  | nil => cases rest <;> rfl
  | cons c base ih =>
    have hpos := Char.utf8Size_pos c
    rw [utf8ByteSize_ofList_cons, List.cons_append, splitAtByte?,
      if_neg (by omega), if_pos (by omega), Nat.add_sub_cancel_left, ih]
    rfl

/-- A backup stem of a four-digit year is 22 characters of one byte each. -/
theorem backupStem_ascii {t : Int} (ht : FourDigitYear t) :
    (Folder.backupStem t).toList.length = 22 ∧
      ∀ c ∈ (Folder.backupStem t).toList, c.utf8Size = 1 := by
  refine ⟨?_, fun c hc => ?_⟩
  · rw [String.length_toList, Folder.backupStem, String.length_append,
      length_stampOfSeconds ht]
    rfl
  · simp only [Folder.backupStem, String.toList_append, List.mem_append] at hc
    rcases hc with hc | hc
    · rw [show "backup-".toList = ['b', 'a', 'c', 'k', 'u', 'p', '-'] from rfl] at hc
      simp only [List.mem_cons, List.not_mem_nil, or_false] at hc
      rcases hc with rfl | rfl | rfl | rfl | rfl | rfl | rfl <;> decide
    · exact utf8Size_of_stampChar (mem_stampOfSeconds hc)

/-- A backup stem of a four-digit year fills the 22 bytes its key splits after. -/
theorem utf8ByteSize_backupStem {t : Int} (ht : FourDigitYear t) :
    (Folder.backupStem t).utf8ByteSize = timestampStemLength := by
  obtain ⟨hlen, hascii⟩ := backupStem_ascii ht
  rw [← String.ofList_toList (s := Folder.backupStem t), utf8ByteSize_ofList_of_ascii hascii,
    hlen]
  rfl

/-! ## Reading the key -/

/-- A decimal numeral below `2 ^ 32` reads back as its number. -/
theorem parseWord32?_toDigits {n : Nat} (h : n < Nat.pow 2 32) :
    parseWord32? (String.ofList (Nat.toDigits 10 n)) = some n := by
  have hdigit : ∀ c ∈ Nat.toDigits 10 n, c.isDigit = true :=
    fun c hc => Nat.isDigit_of_mem_toDigits (by decide) (by decide) hc
  obtain ⟨c, cs, hcs⟩ : ∃ c cs, Nat.toDigits 10 n = c :: cs :=
    List.exists_cons_of_ne_nil Nat.toDigits_ne_nil
  -- a numeral has no sign in front
  have hplus : c ≠ '+' := by
    rintro rfl
    exact absurd (hdigit '+' (by simp [hcs])) (by decide)
  have hread : (c :: cs).foldl (fun acc c => acc * 10 + (c.toNat - '0'.toNat)) 0 = n := by
    rw [← hcs, foldl_toDigits]
  simp only [parseWord32?, String.toList_ofList, hcs]
  split
  · rename_i heq
    exact absurd (List.cons.inj heq).1 hplus
  · rw [hread, if_neg (by simpa [← hcs] using hdigit), if_pos h]

/-- A name whose stem has at most 22 bytes is keyed by its whole stem and the number one. -/
theorem orderKey_bare {a : ArchiveName} {stem : String}
    (hstrip : stripExtension? a.text = some stem)
    (hbytes : stem.utf8ByteSize ≤ timestampStemLength) : a.orderKey = (stem, 1) := by
  simp only [ArchiveName.orderKey, hstrip, Option.getD_some]
  rw [if_neg (Nat.not_lt.2 hbytes)]

/-- A name whose stem is characters filling 22 bytes, a dash and a number is keyed by those
    characters and the number. -/
theorem orderKey_suffixed {a : ArchiveName} {stem : String} {base rest : List Char} {n : Nat}
    (hstrip : stripExtension? a.text = some stem) (hstem : stem.toList = base ++ '-' :: rest)
    (hbase : (String.ofList base).utf8ByteSize = timestampStemLength)
    (hn : parseWord32? (String.ofList rest) = some n) :
    a.orderKey = (String.ofList base, n) := by
  have hbytes : timestampStemLength < stem.utf8ByteSize := by
    rw [← String.ofList_toList (s := stem), hstem, String.ofList_append,
      String.utf8ByteSize_append, hbase, utf8ByteSize_ofList_cons]
    have := Char.utf8Size_pos '-'
    omega
  simp only [ArchiveName.orderKey, hstrip, Option.getD_some]
  rw [if_pos hbytes, hstem, ← hbase, splitAtByte?_append]
  simp only [hn]

/-- **The key of the `n`-th name made in a second** of a four-digit year is that second's
    stem and `n`, for every `n` the program counts to. -/
theorem orderKey_numbered {t : Int} {n : Nat} (ht : FourDigitYear t) (h1 : 1 ≤ n)
    (hn : n < Nat.pow 2 32) :
    (ArchiveName.numbered (Folder.backupStem t) n).orderKey = (Folder.backupStem t, n) := by
  by_cases hone : n = 1
  · subst hone
    refine orderKey_bare (stripExtension?_eq_some_iff.2 ?_)
      (Nat.le_of_eq (utf8ByteSize_backupStem ht))
    simp [ArchiveName.numbered_text]
  · have htext : (ArchiveName.numbered (Folder.backupStem t) n).text.toList =
        ((Folder.backupStem t).toList ++ '-' :: Nat.toDigits 10 n) ++ archiveExtension.toList := by
      simp [ArchiveName.numbered_text, hone]
    have hkey := orderKey_suffixed (stripExtension?_eq_some_iff.2 (by
        rw [htext, String.toList_ofList])) (String.toList_ofList)
      (by rw [String.ofList_toList]; exact utf8ByteSize_backupStem ht) (parseWord32?_toDigits hn)
    rwa [String.ofList_toList] at hkey

/-- **Different seconds or numbers give different keys.** -/
theorem orderKey_numbered_inj {t t' : Int} {n n' : Nat} (ht : FourDigitYear t)
    (ht' : FourDigitYear t') (h1 : 1 ≤ n) (hn : n < Nat.pow 2 32) (h1' : 1 ≤ n')
    (hn' : n' < Nat.pow 2 32)
    (h : (ArchiveName.numbered (Folder.backupStem t) n).orderKey =
      (ArchiveName.numbered (Folder.backupStem t') n').orderKey) : t = t' ∧ n = n' := by
  rw [orderKey_numbered ht h1 hn, orderKey_numbered ht' h1' hn', Prod.mk.injEq] at h
  obtain ⟨hstem, rfl⟩ := h
  exact ⟨stampOfSeconds_injective ht ht' ((String.append_right_inj _).1 hstem), rfl⟩

/-! ## The listing order -/

namespace Folder

/-- One backup is listed before another when it is newer, or as new with a higher stem, or
    as new with the same stem and a number at least as high. -/
theorem listedBefore_iff (a b : ArchiveInfo) :
    listedBefore a b = true ↔
      b.modified < a.modified ∨ a.modified = b.modified ∧
        (b.name.orderKey.1 < a.name.orderKey.1 ∨
          a.name.orderKey.1 = b.name.orderKey.1 ∧ b.name.orderKey.2 ≤ a.name.orderKey.2) := by
  rcases ha : a.name.orderKey with ⟨sa, na⟩
  rcases hb : b.name.orderKey with ⟨sb, nb⟩
  simp only [listedBefore, ha, hb]
  by_cases hm : a.modified = b.modified
  · simp [hm]
  · simp [hm]

theorem listedBefore_total (a b : ArchiveInfo) : (listedBefore a b || listedBefore b a) = true := by
  rw [Bool.or_eq_true, listedBefore_iff, listedBefore_iff]
  rcases Nat.lt_trichotomy a.modified b.modified with h | h | h
  · exact Or.inr (Or.inl h)
  · -- as new: compare the stems, then the numbers
    by_cases hs : b.name.orderKey.1 < a.name.orderKey.1
    · exact Or.inl (Or.inr ⟨h, Or.inl hs⟩)
    by_cases hs' : a.name.orderKey.1 < b.name.orderKey.1
    · exact Or.inr (Or.inr ⟨h.symm, Or.inl hs'⟩)
    have heq : a.name.orderKey.1 = b.name.orderKey.1 := String.le_antisymm hs hs'
    rcases Nat.le_total b.name.orderKey.2 a.name.orderKey.2 with hn | hn
    · exact Or.inl (Or.inr ⟨h, Or.inr ⟨heq, hn⟩⟩)
    · exact Or.inr (Or.inr ⟨h.symm, Or.inr ⟨heq.symm, hn⟩⟩)
  · exact Or.inl (Or.inl h)

theorem listedBefore_trans (a b c : ArchiveInfo) :
    listedBefore a b = true → listedBefore b c = true → listedBefore a c = true := by
  rw [listedBefore_iff, listedBefore_iff, listedBefore_iff]
  rintro (h1 | ⟨h1, h2⟩) (h3 | ⟨h3, h4⟩)
  · exact Or.inl (by omega)
  · exact Or.inl (by omega)
  · exact Or.inl (by omega)
  · refine Or.inr ⟨h1.trans h3, ?_⟩
    rcases h2 with h2 | ⟨h2, h2'⟩ <;> rcases h4 with h4 | ⟨h4, h4'⟩
    · exact Or.inl (String.lt_trans h4 h2)
    · rw [← h4]
      exact Or.inl h2
    · rw [h2]
      exact Or.inl h4
    · exact Or.inr ⟨h2.trans h4, by omega⟩

theorem listedBefore_self (a : ArchiveInfo) : listedBefore a a = true := by
  simpa using listedBefore_total a a

/-- A sorted listing is in the listing order. -/
theorem pairwise_mergeSort_listedBefore (l : List ArchiveInfo) :
    (l.mergeSort listedBefore).Pairwise (fun a b => listedBefore a b = true) :=
  List.pairwise_mergeSort listedBefore_trans listedBefore_total l

/-- **A sorted listing puts `a` before `b`** whenever `b` is not listed before `a`: `a`
    comes before `b`, and `b` never comes before `a`. -/
theorem sublist_mergeSort_listedBefore {l : List ArchiveInfo} {a b : ArchiveInfo} (ha : a ∈ l)
    (hb : b ∈ l) (hba : listedBefore b a = false) :
    [a, b].Sublist (l.mergeSort listedBefore) ∧ ¬ [b, a].Sublist (l.mergeSort listedBefore) := by
  have hnot : ¬ [b, a].Sublist (l.mergeSort listedBefore) := fun h => by
    have hpair := (pairwise_mergeSort_listedBefore l).sublist h
    simp [hba] at hpair
  have hne : a ≠ b := by
    rintro rfl
    simp [listedBefore_self] at hba
  refine ⟨?_, hnot⟩
  obtain ⟨s, t, hst⟩ :=
    List.append_of_mem (show a ∈ l.mergeSort listedBefore from List.mem_mergeSort.2 ha)
  have hb' : b ∈ l.mergeSort listedBefore := List.mem_mergeSort.2 hb
  rw [hst] at hnot hb' ⊢
  rcases List.mem_append.1 hb' with hs | hat
  · exact absurd ((List.singleton_sublist.2 hs).append
      (List.singleton_sublist.2 (List.mem_cons_self ..))) hnot
  · rcases List.mem_cons.1 hat with rfl | ht
    · exact absurd rfl hne
    · exact ((List.singleton_sublist.2 ht).cons_cons a).trans (List.sublist_append_right s _)

/-- **What the listing returns** is the backups it finds, sorted by the listing order. -/
theorem list_eq_map_mergeSort {m : Type → Type} [Monad m] [LawfulMonad m] [FileSystem m]
    (f : Folder) :
    (f.list : ExceptT StoreError m _) = (fun infos => infos.mergeSort listedBefore) <$> f.scan := by
  simp only [Folder.list, bind_pure_comp]

end Folder

/-! ## Names and order agree -/

/-- **Backup names and their order agree.**  The `n`-th name made in a second of a four-digit
    year, for every `n` the program counts to, has the key `(stem, n)`; different seconds or
    numbers give different keys; and the listing, a sort of the backups found, puts a backup
    of a later number before one of an earlier number made in the same second, among
    backups of the same time. -/
theorem ArchiveName.numbered_order_agrees :
    (∀ (t : Int) (n : Nat), FourDigitYear t → 1 ≤ n → n < Nat.pow 2 32 →
      (ArchiveName.numbered (Folder.backupStem t) n).orderKey = (Folder.backupStem t, n)) ∧
    (∀ (t t' : Int) (n n' : Nat), FourDigitYear t → FourDigitYear t' → 1 ≤ n →
      n < Nat.pow 2 32 → 1 ≤ n' → n' < Nat.pow 2 32 →
      (ArchiveName.numbered (Folder.backupStem t) n).orderKey =
        (ArchiveName.numbered (Folder.backupStem t') n').orderKey → t = t' ∧ n = n') ∧
    (∀ (infos : List ArchiveInfo) (a b : ArchiveInfo) (t : Int) (n n' : Nat), FourDigitYear t →
      1 ≤ n' → n' < n → n < Nat.pow 2 32 →
      a.name = ArchiveName.numbered (Folder.backupStem t) n →
      b.name = ArchiveName.numbered (Folder.backupStem t) n' → a.modified = b.modified →
      a ∈ infos → b ∈ infos →
      [a, b].Sublist (infos.mergeSort Folder.listedBefore) ∧
        ¬ [b, a].Sublist (infos.mergeSort Folder.listedBefore)) ∧
    ∀ {m : Type → Type} [Monad m] [LawfulMonad m] [FileSystem m] (f : Folder),
      (f.list : ExceptT StoreError m _) =
        (fun infos => infos.mergeSort Folder.listedBefore) <$> f.scan := by
  refine ⟨fun t n ht h1 hn => orderKey_numbered ht h1 hn,
    fun t t' n n' ht ht' h1 hn h1' hn' h => orderKey_numbered_inj ht ht' h1 hn h1' hn' h,
    fun infos a b t n n' ht h1' hlt hn ha hb hmod hain hbin => ?_,
    fun f => Folder.list_eq_map_mergeSort f⟩
  have hka : a.name.orderKey = (Folder.backupStem t, n) := ha ▸ orderKey_numbered ht (by omega) hn
  have hkb : b.name.orderKey = (Folder.backupStem t, n') :=
    hb ▸ orderKey_numbered ht h1' (by omega)
  -- same time and stem, and a lower number: `b` is not listed before `a`
  refine Folder.sublist_mergeSort_listedBefore hain hbin ?_
  rw [Bool.eq_false_iff, Ne, Folder.listedBefore_iff, hka, hkb]
  simp only [hmod, Nat.lt_irrefl, String.lt_irrefl, true_and, false_or]
  omega

/-- Two backups made in the first second of the epoch, listed with the same time: the second
    comes first. -/
theorem ArchiveName.numbered_order_agrees_epoch :
    (ArchiveName.numbered (Folder.backupStem 0) 2).orderKey = (Folder.backupStem 0, 2) ∧
    ((0 : Int) = 0 ∧ 2 = 2) ∧
    [(⟨ArchiveName.numbered (Folder.backupStem 0) 2, 0, 0⟩ : ArchiveInfo),
        ⟨ArchiveName.numbered (Folder.backupStem 0) 1, 0, 0⟩].Sublist
      (([⟨ArchiveName.numbered (Folder.backupStem 0) 1, 0, 0⟩,
        ⟨ArchiveName.numbered (Folder.backupStem 0) 2, 0, 0⟩] : List ArchiveInfo).mergeSort
          Folder.listedBefore) ∧
    ((Folder.mk ".").list : ExceptT StoreError (StateM FileTree) _) =
      (fun infos => infos.mergeSort Folder.listedBefore) <$> (Folder.mk ".").scan :=
  have h0 : FourDigitYear 0 := by decide
  ⟨ArchiveName.numbered_order_agrees.1 0 2 h0 (by decide) (by decide),
    ArchiveName.numbered_order_agrees.2.1 0 0 2 2 h0 h0 (by decide) (by decide) (by decide)
      (by decide) rfl,
    (ArchiveName.numbered_order_agrees.2.2.1
      [⟨ArchiveName.numbered (Folder.backupStem 0) 1, 0, 0⟩,
        ⟨ArchiveName.numbered (Folder.backupStem 0) 2, 0, 0⟩]
      ⟨ArchiveName.numbered (Folder.backupStem 0) 2, 0, 0⟩
      ⟨ArchiveName.numbered (Folder.backupStem 0) 1, 0, 0⟩ 0 2 1 h0 (by decide) (by decide)
      (by decide) rfl rfl rfl (List.mem_cons_of_mem _ (List.mem_cons_self ..))
      (List.mem_cons_self ..)).1,
    ArchiveName.numbered_order_agrees.2.2.2 _⟩

end Tabula
