import Tabula.Store.Calendar
import Tabula.Proofs.AbsolutePaths
/-! # Backup stamps

    Every second of a year written with four digits has its own stamp `YYYYMMDD-HHMMSS`.

    * `yearOfEra_bounds`: the year the era decomposition finds for a day of an era starts
      on that day or before it, and at most 365 days before it; the proof splits the era
      into centuries of 36524 days and four-year cycles of 1461 days;
    * `toDays_ofDays`: counting the days back from a civil date (`CivilDate.toDays`) gives
      the day number it was made from, so `CivilDate.ofDays` is injective;
    * `foldl_padDigits`, `length_padDigits`: a padded numeral reads back as its number and
      has its width;
    * `stampOfSeconds_injective`: two seconds of four-digit years with the same stamp are
      the same second. -/

namespace Tabula

/-! ## Years of an era -/

/-- The start of year `100 b + 4 q + j` of an era: `b` centuries of 36524 days, `q`
    four-year cycles of 1461 days and `j` years of 365 days. -/
theorem yearStart_decompose {b q j : Nat} (hq : q ≤ 24) (hj : j ≤ 3) :
    yearStart (100 * b + 4 * q + j) = 36524 * b + 1461 * q + 365 * j := by
  unfold yearStart
  omega

/-- The year found for a day `36524 b + 1461 q + s` of an era, before its last day. -/
theorem yearOfEra_decompose {b q s : Nat} (hb : b ≤ 3) (hs : s < 1461)
    (hr : 1461 * q + s < 36524) :
    yearOfEra (36524 * b + 1461 * q + s) =
      100 * b + 4 * q + (s - (24 * b + q + s) / 1460) / 365 := by
  unfold yearOfEra
  have hcentury : (36524 * b + 1461 * q + s) / 36524 = b := by omega
  have hera : (36524 * b + 1461 * q + s) / 146096 = 0 := by omega
  have hcycle : (36524 * b + 1461 * q + s) / 1460 = 25 * b + q + (24 * b + q + s) / 1460 := by
    omega
  rw [hcentury, hera, hcycle]
  omega

/-- **The year of a day of an era** is one of the era's 400 years, starts on the day or
    before it, and at most 365 days before it. -/
theorem yearOfEra_bounds {doe : Nat} (h : doe < 146097) :
    yearOfEra doe < 400 ∧ yearStart (yearOfEra doe) ≤ doe ∧
      doe - yearStart (yearOfEra doe) ≤ 365 := by
  by_cases hlast : doe = 146096
  · -- the leap day that ends the era
    subst hlast
    decide
  · obtain ⟨b, q, s, hb, hs, hr, rfl⟩ : ∃ b q s, b ≤ 3 ∧ s < 1461 ∧ 1461 * q + s < 36524 ∧
        doe = 36524 * b + 1461 * q + s :=
      ⟨doe / 36524, doe % 36524 / 1461, doe % 36524 % 1461, by omega, by omega, by omega,
        by omega⟩
    rw [yearOfEra_decompose hb hs hr]
    -- the extra day `(24 b + q + s) / 1460` only falls in the last year of a cycle
    have hj : (s - (24 * b + q + s) / 1460) / 365 ≤ 3 := by omega
    rw [yearStart_decompose (by omega) hj]
    omega

/-! ## Counting the days back -/

/-- The month of a date counted from March, from `0` for March to `11` for February. -/
def CivilDate.marchMonth (d : CivilDate) : Nat := if d.month ≤ 2 then d.month + 9 else d.month - 3

/-- The year of a date when years are counted from March. -/
def CivilDate.marchYear (d : CivilDate) : Int := d.year - if d.month ≤ 2 then 1 else 0

/-- The day number of a civil date, counted from 1970-01-01: its era, the start of its year
    in the era, the start of its month in the year, and its day. -/
def CivilDate.toDays (d : CivilDate) : Int :=
  d.marchYear / 400 * 146097 +
    (yearStart (d.marchYear % 400).toNat + monthStart d.marchMonth + d.day - 1 : Nat) - 719468

example : (CivilDate.mk 2000 2 29).toDays = 11016 := by decide

/-- The month index `(5 doy + 2) / 153` is the month counted from March, since it is at
    most 11. -/
theorem marchMonth_ofEraDay (era : Int) (doe : Nat)
    (hmp : (5 * (doe - yearStart (yearOfEra doe)) + 2) / 153 ≤ 11) :
    (CivilDate.ofEraDay era doe).marchMonth = (5 * (doe - yearStart (yearOfEra doe)) + 2) / 153 := by
  simp only [CivilDate.marchMonth, CivilDate.ofEraDay]
  split <;> split <;> omega

theorem marchYear_ofEraDay (era : Int) (doe : Nat) :
    (CivilDate.ofEraDay era doe).marchYear = yearOfEra doe + era * 400 := by
  simp only [CivilDate.marchYear, CivilDate.ofEraDay]
  omega

theorem day_ofEraDay (era : Int) (doe : Nat) :
    (CivilDate.ofEraDay era doe).day =
      doe - yearStart (yearOfEra doe) -
        monthStart ((5 * (doe - yearStart (yearOfEra doe)) + 2) / 153) + 1 :=
  rfl

/-- Counting back from the date of a day of an era gives that day. -/
theorem toDays_ofEraDay (era : Int) {doe : Nat} (h : doe < 146097) :
    (CivilDate.ofEraDay era doe).toDays = era * 146097 + doe - 719468 := by
  obtain ⟨hyoe, hlo, hhi⟩ := yearOfEra_bounds h
  have hmp : (5 * (doe - yearStart (yearOfEra doe)) + 2) / 153 ≤ 11 := by omega
  have hstart : monthStart ((5 * (doe - yearStart (yearOfEra doe)) + 2) / 153) ≤
      doe - yearStart (yearOfEra doe) := by
    unfold monthStart
    omega
  have hera : ((yearOfEra doe : Int) + era * 400) / 400 = era := by omega
  have hyear : (((yearOfEra doe : Int) + era * 400) % 400).toNat = yearOfEra doe := by omega
  rw [CivilDate.toDays, marchYear_ofEraDay, marchMonth_ofEraDay era doe hmp, day_ofEraDay, hera,
    hyear]
  omega

/-- **Counting back from a civil date** gives the day number it was made from. -/
theorem toDays_ofDays (days : Int) : (CivilDate.ofDays days).toDays = days := by
  rw [CivilDate.ofDays, toDays_ofEraDay _ (by omega)]
  omega

theorem ofDays_injective {days days' : Int} (h : CivilDate.ofDays days = CivilDate.ofDays days') :
    days = days' := by
  rw [← toDays_ofDays days, ← toDays_ofDays days', h]

theorem CivilDate.eq_of_fields {d d' : CivilDate} (hy : d.year = d'.year)
    (hm : d.month = d'.month) (hd : d.day = d'.day) : d = d' := by
  cases d
  cases d'
  simp_all

/-- A date has a month from 1 to 12 and a day from 1 to 31. -/
theorem ofDays_month_day (days : Int) :
    1 ≤ (CivilDate.ofDays days).month ∧ (CivilDate.ofDays days).month ≤ 12 ∧
      1 ≤ (CivilDate.ofDays days).day ∧ (CivilDate.ofDays days).day ≤ 31 := by
  obtain ⟨-, hlo, hhi⟩ := yearOfEra_bounds
    (show ((days + 719468) % 146097).toNat < 146097 by omega)
  simp only [CivilDate.ofDays, CivilDate.ofEraDay, monthStart]
  split <;> omega

/-! ## Padded numerals -/

theorem toList_padDigits (w n : Nat) :
    (padDigits w n).toList =
      List.replicate (w - (Nat.toDigits 10 n).length) '0' ++ Nat.toDigits 10 n := by
  simp [padDigits, Nat.repr_eq_ofList_toDigits, String.length_ofList]

/-- A padded numeral reads back as its number: the zeros in front read as nothing. -/
theorem foldl_padDigits (w n : Nat) :
    (padDigits w n).toList.foldl (fun acc c => acc * 10 + (c.toNat - '0'.toNat)) 0 = n := by
  rw [toList_padDigits, List.foldl_append, foldl_replicate_zero, foldl_toDigits]

theorem padDigits_inj {w n n' : Nat} (h : padDigits w n = padDigits w n') : n = n' := by
  rw [← foldl_padDigits w n, ← foldl_padDigits w n', h]

/-- A number of at most `w` digits is padded to exactly `w` digits. -/
theorem length_padDigits {w n : Nat} (h : (Nat.toDigits 10 n).length ≤ w) :
    (padDigits w n).length = w := by
  rw [← String.length_toList, toList_padDigits, List.length_append, List.length_replicate]
  omega

theorem length_padDigits_two {n : Nat} (h : n < 100) : (padDigits 2 n).length = 2 :=
  length_padDigits ((Nat.length_toDigits_le_iff (by decide) (by decide : 0 < 2)).2 h)

theorem length_padDigits_four {n : Nat} (h : n < 10000) : (padDigits 4 n).length = 4 :=
  length_padDigits ((Nat.length_toDigits_le_iff (by decide) (by decide : 0 < 4)).2 h)

/-- Two texts that agree, and whose last parts have the same length, agree part by part. -/
theorem append_inj_of_length {a b c d : String} (h : a ++ b = c ++ d)
    (hl : b.length = d.length) : a = c ∧ b = d := by
  have hlist := List.append_inj' (by simpa using congrArg String.toList h) hl
  exact ⟨String.toList_inj.1 hlist.1, String.toList_inj.1 hlist.2⟩

/-! ## Stamps -/

/-- The civil year of the second `t` is written with four digits, `0000` to `9999`. -/
def FourDigitYear (t : Int) : Prop :=
  0 ≤ (CivilDate.ofDays (t / 86400)).year ∧ (CivilDate.ofDays (t / 86400)).year ≤ 9999

instance (t : Int) : Decidable (FourDigitYear t) := inferInstanceAs (Decidable (_ ∧ _))

/-- The stamp of a second of a four-digit year, its seven fields padded to their widths. -/
theorem stampOfSeconds_fourDigit {t : Int} (ht : FourDigitYear t) :
    stampOfSeconds t =
      padDigits 4 (CivilDate.ofDays (t / 86400)).year.toNat ++
        padDigits 2 (CivilDate.ofDays (t / 86400)).month ++
        padDigits 2 (CivilDate.ofDays (t / 86400)).day ++ "-" ++
        padDigits 2 ((t % 86400).toNat / 3600) ++ padDigits 2 ((t % 86400).toNat % 3600 / 60) ++
        padDigits 2 ((t % 86400).toNat % 60) := by
  have hy : 0 ≤ (CivilDate.ofDays (t / 86400)).year ∧ (CivilDate.ofDays (t / 86400)).year ≤ 9999 :=
    ht
  simp only [stampOfSeconds, yearDigits, if_pos hy]

/-- A stamp of a four-digit year has fifteen characters. -/
theorem length_stampOfSeconds {t : Int} (ht : FourDigitYear t) : (stampOfSeconds t).length = 15 := by
  obtain ⟨-, hm, -, hd⟩ := ofDays_month_day (t / 86400)
  have hy : (CivilDate.ofDays (t / 86400)).year.toNat < 10000 := by
    have := ht.2
    omega
  rw [stampOfSeconds_fourDigit ht]
  simp (disch := omega) only [String.length_append, length_padDigits_two,
    length_padDigits_four hy]
  rfl

/-- **Each second of a four-digit year has its own stamp.** -/
theorem stampOfSeconds_injective {t t' : Int} (ht : FourDigitYear t) (ht' : FourDigitYear t')
    (h : stampOfSeconds t = stampOfSeconds t') : t = t' := by
  obtain ⟨-, hm, -, hd⟩ := ofDays_month_day (t / 86400)
  obtain ⟨-, hm', -, hd'⟩ := ofDays_month_day (t' / 86400)
  have two {n n' : Nat} (hn : n < 100) (hn' : n' < 100) :
      (padDigits 2 n).length = (padDigits 2 n').length := by
    rw [length_padDigits_two hn, length_padDigits_two hn']
  rw [stampOfSeconds_fourDigit ht, stampOfSeconds_fourDigit ht'] at h
  -- take the fields off from the right, each of a known width
  obtain ⟨h, hsec⟩ := append_inj_of_length h (two (by omega) (by omega))
  obtain ⟨h, hmin⟩ := append_inj_of_length h (two (by omega) (by omega))
  obtain ⟨h, hhour⟩ := append_inj_of_length h (two (by omega) (by omega))
  obtain ⟨h, -⟩ := append_inj_of_length h rfl
  obtain ⟨h, hday⟩ := append_inj_of_length h (two (by omega) (by omega))
  obtain ⟨hyear, hmonth⟩ := append_inj_of_length h (two (by omega) (by omega))
  have hdate : CivilDate.ofDays (t / 86400) = CivilDate.ofDays (t' / 86400) := by
    have hy := padDigits_inj hyear
    have := ht.1
    have := ht'.1
    exact CivilDate.eq_of_fields (by omega) (padDigits_inj hmonth) (padDigits_inj hday)
  have hdays := ofDays_injective hdate
  have hs := padDigits_inj hsec
  have hmi := padDigits_inj hmin
  have hh := padDigits_inj hhour
  omega

end Tabula
