import Mathlib.Tactic.IntervalCases
import Timetable.Calendar.Date
/-!
# The course of the calendar

Days are numbered one after the other through the ends of months and years. The number of a
day therefore orders the dates as their written digits do, and two dates with the same number
are the same.

## Main definitions

- `Calendar.yearLength` — the number of days of a year
- `Date.inDigits` — the number that the digits `YYYYMMDD` of a date make
- `Date.next` — the following day

## Main statements

- `Date.dayNumber_lt_iff` — day numbers are ordered like digits
- `Date.dayNumber_injective` — a day number belongs to one date
- `Date.dayNumber_next` — the following day has the following number
-/

namespace Timetable

namespace Calendar

/-! ## Months and years -/

/-- The number of days of a year. -/
def yearLength (year : Int) : Nat :=
  if isLeap year then 366 else 365

theorem month_of_daysIn_pos {year : Int} {month : Nat} (h : 1 ≤ daysIn year month) :
    1 ≤ month ∧ month ≤ 12 := by
  unfold daysIn at h
  split at h
  all_goals omega

theorem daysIn_le (year : Int) (month : Nat) : daysIn year month ≤ 31 := by
  unfold daysIn
  split
  case h_12 => split <;> omega
  all_goals omega

theorem le_daysIn (year : Int) {month : Nat} (hpos : 1 ≤ month) (hle : month ≤ 12) :
    28 ≤ daysIn year month := by
  have hleap : 28 ≤ if isLeap year then 29 else 28 := by split <;> omega
  interval_cases month <;> simp [daysIn, hleap]

theorem daysBeforeYear_add_one (year : Int) :
    daysBeforeYear (year + 1) = daysBeforeYear year + yearLength year := by
  by_cases h : isLeap year = true
  · have hleap : year % 4 = 0 ∧ year % 100 ≠ 0 ∨ year % 400 = 0 := by simpa [isLeap] using h
    simp only [daysBeforeYear, yearLength, h, if_true]
    omega
  · have hleap : ¬(year % 4 = 0 ∧ year % 100 ≠ 0 ∨ year % 400 = 0) := by simpa [isLeap] using h
    simp only [daysBeforeYear, yearLength, h, Bool.false_eq_true, if_false]
    omega

theorem daysBeforeYear_add_yearLength_le {a b : Int} (h : a < b) :
    daysBeforeYear a + yearLength a ≤ daysBeforeYear b := by
  have hle : a + 1 ≤ b := h
  rw [← daysBeforeYear_add_one]
  simp only [daysBeforeYear]
  omega

theorem daysBeforeMonth_one (year : Int) : daysBeforeMonth year 1 = 0 := rfl

theorem daysBeforeMonth_add_one (year : Int) {month : Nat} (h : 1 ≤ month) :
    daysBeforeMonth year (month + 1) = daysBeforeMonth year month + daysIn year month := by
  obtain ⟨n, rfl⟩ := Nat.exists_eq_add_of_le' h
  -- The fold over the earlier months ends with the last of them.
  simp only [daysBeforeMonth, Nat.add_sub_cancel]
  rw [List.range'_1_concat, List.foldl_append, Nat.add_comm 1 n]
  rfl

theorem daysBeforeMonth_add_daysIn_le (year : Int) {a b : Nat} (ha : 1 ≤ a) (h : a < b) :
    daysBeforeMonth year a + daysIn year a ≤ daysBeforeMonth year b := by
  induction h with
  | refl => exact Nat.le_of_eq (daysBeforeMonth_add_one year ha).symm
  | step hb ih =>
    rw [daysBeforeMonth_add_one year (Nat.le_trans ha (Nat.le_of_lt hb))]
    omega

/-- The twelve months together make the year. -/
theorem daysBeforeMonth_thirteen (year : Int) : daysBeforeMonth year 13 = yearLength year := by
  simp only [daysBeforeMonth, yearLength, List.range', List.foldl, daysIn]
  split <;> rfl

end Calendar

open Calendar

attribute [ext] Date

namespace Date

variable (d : Date)

/-! ## Order of dates -/

theorem month_pos : 1 ≤ d.month :=
  (month_of_daysIn_pos (Nat.le_trans d.exists_day.1 d.exists_day.2)).1

theorem month_le : d.month ≤ 12 :=
  (month_of_daysIn_pos (Nat.le_trans d.exists_day.1 d.exists_day.2)).2

theorem day_pos : 1 ≤ d.day :=
  d.exists_day.1

theorem day_le : d.day ≤ 31 :=
  Nat.le_trans d.exists_day.2 (daysIn_le _ _)

/-- The number that the digits `YYYYMMDD` of a date make. -/
def inDigits : Int :=
  (d.year * 100 + d.month) * 100 + d.day

variable {d}

theorem eq_of_inDigits_eq {a b : Date} (h : a.inDigits = b.inDigits) : a = b := by
  have ha := a.month_le
  have hb := b.month_le
  have hda := a.day_le
  have hdb := b.day_le
  have hda' := a.day_pos
  have hdb' := b.day_pos
  simp only [inDigits] at h
  have hyear : a.year = b.year := by omega
  have hmonth : a.month = b.month := by omega
  have hday : a.day = b.day := by omega
  exact Date.ext hyear hmonth hday

theorem inDigits_lt_of_year_lt {a b : Date} (h : a.year < b.year) : a.inDigits < b.inDigits := by
  have hmonth := a.month_le
  have hday := a.day_le
  simp only [inDigits]
  omega

theorem inDigits_lt_of_month_lt {a b : Date} (hyear : a.year = b.year) (h : a.month < b.month) :
    a.inDigits < b.inDigits := by
  have hday := a.day_le
  simp only [inDigits, hyear]
  omega

theorem dayOfYear_lt (d : Date) :
    daysBeforeMonth d.year d.month + (d.day - 1) < yearLength d.year := by
  have hmonth := daysBeforeMonth_add_daysIn_le d.year d.month_pos (Nat.lt_succ_of_le d.month_le)
  rw [daysBeforeMonth_thirteen] at hmonth
  have hday := d.exists_day
  omega

/-- Of two dates the one with the smaller digits has the smaller number. The first part in
which they differ decides: the days before it make up for all later parts. -/
theorem dayNumber_lt_of_inDigits_lt {a b : Date} (h : a.inDigits < b.inDigits) :
    a.dayNumber < b.dayNumber := by
  have ha := a.month_le
  have hb := b.month_le
  have hda := a.exists_day
  have hda' := a.day_le
  have hdb := b.day_pos
  have hdb' := b.day_le
  have hma := a.month_pos
  have hmb := b.month_pos
  simp only [inDigits] at h
  simp only [dayNumber]
  by_cases hyear : a.year < b.year
  · -- Even the last day of the earlier year comes before the first one of the later year.
    have hlast := dayOfYear_lt a
    have hnext := daysBeforeYear_add_yearLength_le hyear
    omega
  · have hyear : a.year = b.year := by omega
    rw [hyear] at h hda ⊢
    by_cases hmonth : a.month < b.month
    · have hnext := daysBeforeMonth_add_daysIn_le b.year a.month_pos hmonth
      omega
    · have hmonth : a.month = b.month := by omega
      rw [hmonth] at h ⊢
      omega

/-- The numbers of days are ordered like the digits of the dates. -/
theorem dayNumber_lt_iff {a b : Date} : a.dayNumber < b.dayNumber ↔ a.inDigits < b.inDigits := by
  refine ⟨fun h => ?_, dayNumber_lt_of_inDigits_lt⟩
  rcases Int.lt_trichotomy a.inDigits b.inDigits with hlt | heq | hgt
  · exact hlt
  · rw [eq_of_inDigits_eq heq] at h
    omega
  · have := dayNumber_lt_of_inDigits_lt hgt
    omega

theorem dayNumber_injective {a b : Date} (h : a.dayNumber = b.dayNumber) : a = b := by
  apply eq_of_inDigits_eq
  have hlt := dayNumber_lt_iff (a := a) (b := b)
  have hgt := dayNumber_lt_iff (a := b) (b := a)
  omega

/-! ## The following day -/

/-- The following day: the next one of the month if it has more, and else the first one of the
month or the year after. -/
def next (d : Date) : Date :=
  if h : d.day < daysIn d.year d.month then
    ⟨d.year, d.month, d.day + 1, by omega⟩
  else if h : d.month < 12 then
    ⟨d.year, d.month + 1, 1, Nat.le_refl 1,
      Nat.le_trans (by omega) (le_daysIn d.year (Nat.le_add_left 1 d.month) h)⟩
  else
    ⟨d.year + 1, 1, 1, Nat.le_refl 1,
      Nat.le_trans (by omega) (le_daysIn _ (Nat.le_refl 1) (by omega))⟩

/-- The days are numbered without gaps. -/
theorem dayNumber_next (d : Date) : d.next.dayNumber = d.dayNumber + 1 := by
  have hday := d.exists_day
  have hmonth := d.month_le
  unfold next
  split
  · simp only [dayNumber]
    omega
  · -- The month is over, and so is the year if it was the last month.
    have hlast : d.day = daysIn d.year d.month := by omega
    have hsucc := daysBeforeMonth_add_one d.year d.month_pos
    split
    · simp only [dayNumber]
      omega
    · have htwelve : d.month = 12 := by omega
      have hyear := daysBeforeYear_add_one d.year
      rw [← daysBeforeMonth_thirteen] at hyear
      simp only [htwelve, Nat.reduceAdd] at hsucc hlast
      simp only [dayNumber, daysBeforeMonth_one, htwelve]
      omega

end Date

end Timetable
