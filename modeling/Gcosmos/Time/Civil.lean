import Mathlib.Tactic.IntervalCases

/-!
# The proleptic Gregorian calendar of Go's `time` package

`time.Time.Format` turns an instant into a calendar date and a time of day, and `time.Date`,
called by `time.Parse`, turns them back. Both follow the proleptic Gregorian calendar. This file
computes it on days counted from 1970-01-01, splitting a day into a 400-year era, a year of the
era and a day of the year, all counted from 1 March so that 29 February is the last day of its
year. Go's `isLeap`, `daysBefore` and `daysIn` are given as the sources of package `time` have
them, since `parseRFC3339` checks the day of the month against `daysIn`.

## Main definitions

* `Time.yearOfEra`: the year and the day of the year of a day of a 400-year era.
* `Time.civilOfDays`, `Time.daysOfCivil`: days since the Unix epoch to a date and back.
* `Time.isLeap`, `Time.daysIn`: Go's leap-year rule and month lengths.

## Main results

* `Time.daysOfCivil_civilOfDays`: a date computed from a day gives that day back.
* `Time.civilOfDays_month`, `Time.civilOfDays_day`: the date computed is valid, with its day
  of the month at most `daysIn` of its month and year.
-/

namespace Gcosmos.Time

/-- Go's `isLeap`: the Gregorian leap-year rule. -/
def isLeap (year : Int) : Bool :=
  year % 4 == 0 && (year % 100 != 0 || year % 400 == 0)

/-- Go's table `daysBefore`: the days of a common year before the first day of month `m + 1`. -/
def daysBefore : Nat → Int
  | 0 => 0
  | 1 => 31
  | 2 => 59
  | 3 => 90
  | 4 => 120
  | 5 => 151
  | 6 => 181
  | 7 => 212
  | 8 => 243
  | 9 => 273
  | 10 => 304
  | 11 => 334
  | _ => 365

/-- Go's `daysIn(m, year)`: the number of days of month `m` of `year`. -/
def daysIn (m year : Int) : Int :=
  if m = 2 ∧ isLeap year then 29 else daysBefore m.toNat - daysBefore (m - 1).toNat

/-- A date of the proleptic Gregorian calendar. -/
structure Civil where
  year : Int
  month : Int
  day : Int
  deriving DecidableEq, Repr

/-- The year of a 400-year era and the day of that year, both counted from 1 March, of the day
`doe` of the era. An era has four centuries, the last one a day longer; a century has 4-year
cycles, each a day longer than four common years except the last cycle of a short century; the
longer ones end on 29 February. -/
def yearOfEra (doe : Int) : Int × Int :=
  let c := min (doe / 36524) 3
  let q := (doe - 36524 * c) / 1461
  let doq := (doe - 36524 * c) % 1461
  let y := min (doq / 365) 3
  (100 * c + 4 * q + y, doq - 365 * y)

/-- The date of the day `z` counted from 1970-01-01. Day `719468` of the calendar, counted from
0000-03-01, is 1970-01-01; months are counted from March (`mp`) and renumbered from January, so
that January and February belong to the next year. -/
def civilOfDays (z : Int) : Civil :=
  let z := z + 719468
  let yd := yearOfEra (z % 146097)
  let y := yd.1 + 400 * (z / 146097)
  let mp := (5 * yd.2 + 2) / 153
  { year := if mp < 10 then y else y + 1
    month := if mp < 10 then mp + 3 else mp - 9
    day := yd.2 - (153 * mp + 2) / 5 + 1 }

/-- The day, counted from 1970-01-01, of a date with its month in `[1, 12]`; the day of the month
counts linearly, so that a day past the end of its month runs into the next one as in Go's
`time.Date`. -/
def daysOfCivil (c : Civil) : Int :=
  let y := if c.month ≤ 2 then c.year - 1 else c.year
  let mp := if c.month ≤ 2 then c.month + 9 else c.month - 3
  146097 * (y / 400) + 365 * (y % 400) + y % 400 / 4 - y % 400 / 100 +
    (153 * mp + 2) / 5 + c.day - 1 - 719468

/-! ### The year of an era -/

section YearOfEra

variable {doe : Int}

theorem yearOfEra_spec (h0 : 0 ≤ doe) (h1 : doe < 146097) :
    0 ≤ (yearOfEra doe).1 ∧ (yearOfEra doe).1 ≤ 399 ∧
      0 ≤ (yearOfEra doe).2 ∧ (yearOfEra doe).2 ≤ 365 ∧
      365 * (yearOfEra doe).1 + (yearOfEra doe).1 / 4 - (yearOfEra doe).1 / 100 +
        (yearOfEra doe).2 = doe := by
  simp only [yearOfEra]
  generalize hc : min (doe / 36524) 3 = c
  generalize hq : (doe - 36524 * c) / 1461 = q
  generalize hd : (doe - 36524 * c) % 1461 = doq
  generalize hy : min (doq / 365) 3 = y
  have h4 : (100 * c + 4 * q + y) / 4 = 25 * c + q := by omega
  have h100 : (100 * c + 4 * q + y) / 100 = c := by omega
  rw [h4, h100]
  omega

/-- The last day of a year of the era, day 365, is 29 February of a leap year. -/
theorem yearOfEra_leap (h0 : 0 ≤ doe) (h1 : doe < 146097) (h : (yearOfEra doe).2 = 365) :
    ((yearOfEra doe).1 + 1) % 4 = 0 ∧
      (((yearOfEra doe).1 + 1) % 100 ≠ 0 ∨ ((yearOfEra doe).1 + 1) % 400 = 0) := by
  simp only [yearOfEra] at h ⊢
  generalize hc : min (doe / 36524) 3 = c at *
  generalize hq : (doe - 36524 * c) / 1461 = q at *
  generalize hd : (doe - 36524 * c) % 1461 = doq at *
  generalize hy : min (doq / 365) 3 = y at *
  have hy3 : y = 3 := by omega
  have hc3 : q = 24 → c = 3 := by omega
  have hcq : 0 ≤ q ∧ q ≤ 24 ∧ 0 ≤ c ∧ c ≤ 3 := by omega
  subst hy3
  omega

end YearOfEra

/-! ### Days and dates -/

section Days

variable (z : Int)

private theorem civilOfDays_parts :
    let yd := yearOfEra ((z + 719468) % 146097)
    0 ≤ yd.1 ∧ yd.1 ≤ 399 ∧ 0 ≤ yd.2 ∧ yd.2 ≤ 365 ∧
      365 * yd.1 + yd.1 / 4 - yd.1 / 100 + yd.2 = (z + 719468) % 146097 :=
  yearOfEra_spec (Int.emod_nonneg _ (by decide)) (Int.emod_lt_of_pos _ (by decide))

/-- Once the era and the year of the era are fixed, a date and its day agree. -/
private theorem days_of_parts (z yoe doy : Int) (h0 : 0 ≤ yoe) (h1 : yoe ≤ 399)
    (h4 : 365 * yoe + yoe / 4 - yoe / 100 + doy = (z + 719468) % 146097) :
    146097 * ((yoe + 400 * ((z + 719468) / 146097)) / 400) +
      365 * ((yoe + 400 * ((z + 719468) / 146097)) % 400) +
      (yoe + 400 * ((z + 719468) / 146097)) % 400 / 4 -
      (yoe + 400 * ((z + 719468) / 146097)) % 400 / 100 + doy - 719468 = z := by
  have hq : (yoe + 400 * ((z + 719468) / 146097)) / 400 = (z + 719468) / 146097 := by omega
  have hr : (yoe + 400 * ((z + 719468) / 146097)) % 400 = yoe := by omega
  rw [hq, hr]
  omega

theorem daysOfCivil_civilOfDays : daysOfCivil (civilOfDays z) = z := by
  obtain ⟨h0, h1, h2, h3, h4⟩ := civilOfDays_parts z
  have hd := days_of_parts z _ _ h0 h1 h4
  simp only [daysOfCivil, civilOfDays]
  generalize yearOfEra ((z + 719468) % 146097) = yd at *
  have hmp : 0 ≤ (5 * yd.2 + 2) / 153 ∧ (5 * yd.2 + 2) / 153 ≤ 11 := by omega
  generalize (5 * yd.2 + 2) / 153 = mp at *
  by_cases hlt : mp < 10
  · have hm : ¬ mp + 3 ≤ 2 := by omega
    simp only [hlt, hm, if_true, if_false, add_sub_cancel_right]
    omega
  · have hm : mp - 9 ≤ 2 := by omega
    simp only [hlt, hm, if_true, if_false, add_sub_cancel_right, sub_add_cancel]
    omega

theorem civilOfDays_month : 1 ≤ (civilOfDays z).month ∧ (civilOfDays z).month ≤ 12 := by
  obtain ⟨-, -, h2, h3, -⟩ := civilOfDays_parts z
  simp only [civilOfDays]
  split_ifs <;> omega

/-- Go's month lengths outside February, for the month of index `mp` counted from March: the
difference of `(153 * mp + 2) / 5` between `mp + 1` and `mp`. -/
private theorem daysIn_of_mp {mp : Int} (year : Int) (h0 : 0 ≤ mp) (h1 : mp ≤ 10) :
    daysIn (if mp < 10 then mp + 3 else mp - 9) year =
      (153 * (mp + 1) + 2) / 5 - (153 * mp + 2) / 5 := by
  interval_cases mp <;> rfl

theorem civilOfDays_day :
    1 ≤ (civilOfDays z).day ∧ (civilOfDays z).day ≤ daysIn (civilOfDays z).month
      (civilOfDays z).year := by
  obtain ⟨h0, h1, h2, h3, h4⟩ := civilOfDays_parts z
  have hleap := yearOfEra_leap (Int.emod_nonneg (z + 719468) (by decide))
    (Int.emod_lt_of_pos (z + 719468) (by decide))
  simp only [civilOfDays]
  generalize yearOfEra ((z + 719468) % 146097) = yd at *
  obtain ⟨yoe, doy⟩ := yd
  simp only at *
  have hmp : 0 ≤ (5 * doy + 2) / 153 ∧ (5 * doy + 2) / 153 ≤ 11 := by omega
  generalize hm : (5 * doy + 2) / 153 = mp at *
  by_cases h11 : mp = 11
  · -- February, the last month of a year counted from March
    subst h11
    simp only [daysIn, isLeap, show ¬ (11 : Int) < 10 by decide, if_false,
      show daysBefore (11 - 9 : Int).toNat - daysBefore (11 - 9 - 1 : Int).toNat = 28 from rfl]
    split_ifs <;> simp_all only [Bool.and_eq_true, beq_iff_eq, Bool.or_eq_true, bne_iff_ne] <;>
      omega
  · rw [daysIn_of_mp _ hmp.1 (by omega)]
    omega

theorem daysIn_le {m : Int} (year : Int) (h0 : 1 ≤ m) (h1 : m ≤ 12) : daysIn m year ≤ 31 := by
  interval_cases m <;> unfold daysIn <;> split_ifs <;> decide

end Days

end Gcosmos.Time
