import Mathlib.Data.List.Iterate
import Mathlib.Order.Defs.LinearOrder
import Timetable.Proofs.Calendar
import Timetable.Window
/-!
# The course of the minutes

Beginnings of minutes are ordered by their minute numbers, and so by their written digits. From
one to the next the minute number grows by one, through the ends of hours, days, months and
years. The minutes of a window are therefore those that are reached from its earliest one in
so many steps as its number of minutes says.

## Main definitions

- the linear order of `Moment`, by ranks
- `Moment.inDigits` — the number that the digits `YYYYMMDDHHMM` of a moment make
- `Moment.next` — the beginning of the following minute
- `Window.eachMinute` — the minutes of a window, one after the other

## Main statements

- `Moment.le_iff_inDigits_le` — beginnings of minutes are ordered like digits
- `Moment.minuteNumber_next` — the following minute has the following number
- `Window.mem_eachMinute` — the minutes of a window are those that it contains
-/

namespace Timetable

attribute [ext] Moment

namespace Moment

/-! ## Order of moments -/

theorem floor_eq_iff {t : Moment} : t.floor = t ↔ t.second = 0 ∧ t.nano = 0 := by
  constructor
  · intro h
    rw [← h]
    exact ⟨rfl, rfl⟩
  · rintro ⟨hsecond, hnano⟩
    exact Moment.ext rfl rfl rfl hsecond.symm hnano.symm

theorem le_def {a b : Moment} : a ≤ b ↔ a.rank ≤ b.rank :=
  Iff.rfl

theorem lt_def {a b : Moment} : a < b ↔ a.rank < b.rank :=
  Iff.rfl

/-- No two moments have the same place in time, since every part of a moment has less room than
the unit of the part before it. -/
theorem rank_injective : Function.Injective rank := by
  intro a b h
  obtain ⟨hha, hma, hsa, hna⟩ := a.isTimeOfDay
  obtain ⟨hhb, hmb, hsb, hnb⟩ := b.isTimeOfDay
  simp only [rank, minuteNumber] at h
  have hdate : a.date = b.date := Date.dayNumber_injective (by omega)
  rw [hdate] at h
  exact Moment.ext hdate (by omega) (by omega) (by omega) (by omega)

instance : LinearOrder Moment where
  le_refl t := Int.le_refl t.rank
  le_trans _ _ _ hab hbc := Int.le_trans hab hbc
  lt_iff_le_not_ge a b := Int.lt_iff_le_and_not_ge
  le_antisymm _ _ hab hba := rank_injective (Int.le_antisymm hab hba)
  le_total a b := Int.le_total a.rank b.rank
  toDecidableLE := inferInstance

/-- The number that the digits `YYYYMMDDHHMM` of a moment make. -/
def inDigits (t : Moment) : Int :=
  (t.date.inDigits * 100 + t.hour) * 100 + t.minute

/-- Any time of a day comes before any time of a later day. -/
theorem inDigits_lt_of_date_lt {a b : Moment} (h : a.date.inDigits < b.date.inDigits) :
    a.inDigits < b.inDigits := by
  obtain ⟨hhour, hminute, -⟩ := a.isTimeOfDay
  simp only [inDigits]
  omega

theorem inDigits_lt_of_hour_lt {a b : Moment} (hdate : a.date = b.date) (h : a.hour < b.hour) :
    a.inDigits < b.inDigits := by
  obtain ⟨-, hminute, -⟩ := a.isTimeOfDay
  simp only [inDigits, hdate]
  omega

/-- The numbers of minutes are ordered like the digits of the moments. -/
theorem minuteNumber_lt_iff {a b : Moment} :
    a.minuteNumber < b.minuteNumber ↔ a.inDigits < b.inDigits := by
  obtain ⟨hha, hma, -⟩ := a.isTimeOfDay
  obtain ⟨hhb, hmb, -⟩ := b.isTimeOfDay
  have hlt := Date.dayNumber_lt_iff (a := a.date) (b := b.date)
  have hgt := Date.dayNumber_lt_iff (a := b.date) (b := a.date)
  simp only [minuteNumber, inDigits]
  rcases Int.lt_trichotomy a.date.dayNumber b.date.dayNumber with hday | hday | hday
  · have := hlt.1 hday
    omega
  · have : a.date.inDigits = b.date.inDigits := by omega
    omega
  · have := hgt.1 hday
    omega

theorem minuteNumber_le_iff {a b : Moment} :
    a.minuteNumber ≤ b.minuteNumber ↔ a.inDigits ≤ b.inDigits := by
  have := minuteNumber_lt_iff (a := b) (b := a)
  omega

theorem minuteNumber_le_of_le {a b : Moment} (h : a ≤ b) : a.minuteNumber ≤ b.minuteNumber := by
  obtain ⟨-, -, hsa, hna⟩ := a.isTimeOfDay
  obtain ⟨-, -, hsb, hnb⟩ := b.isTimeOfDay
  rw [le_def, rank, rank] at h
  omega

theorem year_le_of_le {a b : Moment} (h : a ≤ b) : a.date.year ≤ b.date.year := by
  have hdigits := minuteNumber_le_iff.1 (minuteNumber_le_of_le h)
  obtain ⟨hha, hma, -⟩ := a.isTimeOfDay
  obtain ⟨hhb, hmb, -⟩ := b.isTimeOfDay
  have hmonth := b.date.month_le
  have hday := b.date.day_le
  simp only [inDigits, Date.inDigits] at hdigits
  omega

theorem rank_of_floor {t : Moment} (h : t.floor = t) :
    t.rank = t.minuteNumber * 60 * 2000000000 := by
  obtain ⟨hsecond, hnano⟩ := floor_eq_iff.1 h
  rw [rank, hsecond, hnano]
  omega

section
variable {a b : Moment}

theorem le_iff_minuteNumber_le (ha : a.floor = a) (hb : b.floor = b) :
    a ≤ b ↔ a.minuteNumber ≤ b.minuteNumber := by
  rw [le_def, rank_of_floor ha, rank_of_floor hb]
  omega

theorem lt_iff_minuteNumber_lt (ha : a.floor = a) (hb : b.floor = b) :
    a < b ↔ a.minuteNumber < b.minuteNumber := by
  rw [lt_def, rank_of_floor ha, rank_of_floor hb]
  omega

/-- Beginnings of minutes are ordered like their digits. -/
theorem le_iff_inDigits_le (ha : a.floor = a) (hb : b.floor = b) :
    a ≤ b ↔ a.inDigits ≤ b.inDigits := by
  rw [le_iff_minuteNumber_le ha hb, minuteNumber_le_iff]

theorem eq_of_minuteNumber_eq (ha : a.floor = a) (hb : b.floor = b)
    (h : a.minuteNumber = b.minuteNumber) : a = b :=
  rank_injective (by rw [rank_of_floor ha, rank_of_floor hb, h])

end

/-! ## The following minute -/

/-- The beginning of the following minute, which may be the first one of an hour or a day. -/
def next (t : Moment) : Moment :=
  if h : t.minute < 59 then
    ⟨t.date, t.hour, t.minute + 1, 0, 0,
      t.isTimeOfDay.1, Nat.succ_lt_succ h, by decide, .inl (by decide)⟩
  else if h : t.hour < 23 then
    ⟨t.date, t.hour + 1, 0, 0, 0,
      Nat.succ_lt_succ h, by decide, by decide, .inl (by decide)⟩
  else firstOf t.date.next

theorem floor_next (t : Moment) : t.next.floor = t.next := by
  unfold next
  split
  · rfl
  · split
    · rfl
    · rfl

/-- The minutes are numbered without gaps. -/
theorem minuteNumber_next (t : Moment) : t.next.minuteNumber = t.minuteNumber + 1 := by
  obtain ⟨hhour, hminute, -⟩ := t.isTimeOfDay
  unfold next
  split
  · simp only [minuteNumber]
    omega
  · split
    · simp only [minuteNumber]
      omega
    · have hday := t.date.dayNumber_next
      simp only [minuteNumber, firstOf]
      omega

theorem minuteNumber_next_iterate (t : Moment) (n : Nat) :
    (next^[n] t).minuteNumber = t.minuteNumber + n := by
  induction n with
  | zero => simp
  | succ n ih =>
    rw [Function.iterate_succ_apply', minuteNumber_next, ih]
    omega

theorem floor_next_iterate {t : Moment} (h : t.floor = t) (n : Nat) :
    (next^[n] t).floor = next^[n] t := by
  cases n with
  | zero => exact h
  | succ n =>
    rw [Function.iterate_succ_apply']
    exact floor_next _

end Moment

namespace Window

variable (w : Window)

/-! ## The minutes of a window -/

/-- The minutes of the window, from the earliest on each one after the other. -/
def eachMinute : List Moment :=
  List.iterate Moment.next w.earliest w.minutes

theorem minuteNumber_earliest_le : w.earliest.minuteNumber ≤ w.latest.minuteNumber :=
  Moment.minuteNumber_le_of_le w.earliest_le_latest

theorem minutes_pos : 0 < w.minutes :=
  Nat.succ_pos _

theorem minutes_eq : (w.minutes : Int) = w.latest.minuteNumber - w.earliest.minuteNumber + 1 := by
  have := w.minuteNumber_earliest_le
  rw [minutes]
  omega

theorem contains_iff {t : Moment} : w.contains t = true ↔ w.earliest ≤ t ∧ t ≤ w.latest :=
  decide_eq_true_iff

theorem contains_iff_minuteNumber {t : Moment} (h : t.floor = t) :
    w.contains t = true ↔
      w.earliest.minuteNumber ≤ t.minuteNumber ∧ t.minuteNumber ≤ w.latest.minuteNumber := by
  rw [contains_iff, Moment.le_iff_minuteNumber_le w.floor_earliest h,
    Moment.le_iff_minuteNumber_le h w.floor_latest]

theorem length_eachMinute : w.eachMinute.length = w.minutes :=
  List.length_iterate _ _ _

theorem eachMinute_eq_map :
    w.eachMinute = (List.range w.minutes).map fun n => Moment.next^[n] w.earliest :=
  (List.range_map_iterate _ _ _).symm

theorem map_minuteNumber_eachMinute :
    w.eachMinute.map Moment.minuteNumber =
      (List.range w.minutes).map fun n => w.earliest.minuteNumber + (n : Nat) := by
  rw [eachMinute_eq_map, List.map_map]
  apply List.map_congr_left
  intro n _
  exact Moment.minuteNumber_next_iterate _ n

/-- The minutes of the window are the beginnings of minutes that it contains. -/
theorem mem_eachMinute {t : Moment} :
    t ∈ w.eachMinute ↔ t.floor = t ∧ w.contains t = true := by
  have hminutes := w.minutes_eq
  rw [eachMinute_eq_map, List.mem_map]
  constructor
  · rintro ⟨n, hn, rfl⟩
    have hfloor := Moment.floor_next_iterate w.floor_earliest n
    have hnumber := w.earliest.minuteNumber_next_iterate n
    rw [List.mem_range] at hn
    refine ⟨hfloor, (w.contains_iff_minuteNumber hfloor).2 ?_⟩
    omega
  · rintro ⟨hfloor, hcontains⟩
    obtain ⟨hearliest, hlatest⟩ := (w.contains_iff_minuteNumber hfloor).1 hcontains
    -- The minute is reached in as many steps as the numbers differ.
    refine ⟨(t.minuteNumber - w.earliest.minuteNumber).toNat, ?_, ?_⟩
    · rw [List.mem_range]
      omega
    · apply Moment.eq_of_minuteNumber_eq (Moment.floor_next_iterate w.floor_earliest _) hfloor
      rw [Moment.minuteNumber_next_iterate]
      omega

theorem pairwise_eachMinute : w.eachMinute.Pairwise (· < ·) := by
  rw [eachMinute_eq_map, List.pairwise_map]
  apply List.pairwise_lt_range.imp
  intro m n hmn
  rw [Moment.lt_iff_minuteNumber_lt (Moment.floor_next_iterate w.floor_earliest m)
    (Moment.floor_next_iterate w.floor_earliest n), Moment.minuteNumber_next_iterate,
    Moment.minuteNumber_next_iterate]
  omega

theorem head?_eachMinute : w.eachMinute.head? = some w.earliest := by
  simp [eachMinute, minutes]

theorem getLast?_eachMinute : w.eachMinute.getLast? = some w.latest := by
  have hminutes := w.minutes_eq
  have hpos := w.minutes_pos
  have hlast : Moment.next^[w.minutes - 1] w.earliest = w.latest := by
    apply Moment.eq_of_minuteNumber_eq (Moment.floor_next_iterate w.floor_earliest _)
      w.floor_latest
    rw [Moment.minuteNumber_next_iterate]
    omega
  rw [eachMinute_eq_map, List.getLast?_map, List.getLast?_range, if_neg (by omega),
    Option.map_some, hlast]

end Window

end Timetable
