/-! # Calendar

    The civil date and time in UTC of a count of seconds since 1970-01-01T00:00:00Z,
    negative before it, in the proleptic Gregorian calendar, and the compact stamp
    `YYYYMMDD-HHMMSS` that names a backup after the second it was made.  A year outside
    `0 .. 9999` is written with its sign and at least four digits.

    The date of a day number follows the era decomposition: a 400-year era has 146097
    days, and counting years from March puts the leap day last, so that the month of a
    day of the year is `(5 * day + 2) / 153`. -/

namespace Tabula

/-- A day of the civil calendar. -/
structure CivilDate where
  year : Int
  month : Nat
  day : Nat
  deriving DecidableEq, Repr

/-- The day of an era, counted from its first 1 March, on which year `yoe` of the era
    starts: 365 days a year, and a leap day every fourth year but not every hundredth. -/
def yearStart (yoe : Nat) : Nat := 365 * yoe + yoe / 4 - yoe / 100

/-- The year of an era, counted from March, in which day `doe` of the era falls. -/
def yearOfEra (doe : Nat) : Nat := (doe - doe / 1460 + doe / 36524 - doe / 146096) / 365

/-- The day of a year counted from March on which month `mp` starts, `0` for March. -/
def monthStart (mp : Nat) : Nat := (153 * mp + 2) / 5

/-- The civil date of day `doe` of the 400-year era `era`, the era counted from
    0000-03-01. -/
def CivilDate.ofEraDay (era : Int) (doe : Nat) : CivilDate :=
  let yoe := yearOfEra doe
  let doy := doe - yearStart yoe
  let mp := (5 * doy + 2) / 153
  let month := if mp < 10 then mp + 3 else mp - 9
  ⟨yoe + era * 400 + (if month ≤ 2 then 1 else 0), month, doy - monthStart mp + 1⟩

/-- The civil date of a day counted from 1970-01-01, negative before it. -/
def CivilDate.ofDays (days : Int) : CivilDate :=
  let z := days + 719468
  CivilDate.ofEraDay (z / 146097) (z % 146097).toNat

/-- A number in decimal, padded with zeros to a width. -/
def padDigits (width n : Nat) : String :=
  let s := toString n
  String.ofList (List.replicate (width - s.length) '0') ++ s

/-- A year in four digits, or with its sign and at least four digits outside `0 .. 9999`. -/
def yearDigits (year : Int) : String :=
  if 0 ≤ year ∧ year ≤ 9999 then padDigits 4 year.toNat
  else (if year < 0 then "-" else "+") ++ padDigits 4 year.natAbs

/-- The stamp `YYYYMMDD-HHMMSS` of a second since the epoch. -/
def stampOfSeconds (seconds : Int) : String :=
  let date := CivilDate.ofDays (seconds / 86400)
  let time := (seconds % 86400).toNat
  yearDigits date.year ++ padDigits 2 date.month ++ padDigits 2 date.day ++ "-"
    ++ padDigits 2 (time / 3600) ++ padDigits 2 (time % 3600 / 60) ++ padDigits 2 (time % 60)

example : CivilDate.ofDays 0 = ⟨1970, 1, 1⟩ := by decide
example : CivilDate.ofDays 11016 = ⟨2000, 2, 29⟩ := by decide
example : CivilDate.ofDays (-1) = ⟨1969, 12, 31⟩ := by decide
example : stampOfSeconds 1000000000 = "20010909-014640" := by decide
example : stampOfSeconds (-1) = "19691231-235959" := by decide

end Tabula
