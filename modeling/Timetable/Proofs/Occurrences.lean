import Mathlib.Data.List.Nodup
import Timetable.Occurrences
import Timetable.Proofs.KeyOrder
/-!
# What the occurrences are

Every combination of a year with values of the fields that is a minute of the calendar is a
candidate. The occurrences in a window are the candidates that the window contains and whose
weekday is listed: a day that is passed over for its key has no minute in the window, a key
that is turned away belongs to no minute in it, and a weekday column that lists all weekdays
turns no day away. Counting candidates is counting the values of the fields.

## Main definitions

- `Schedule.datesIn`, `Schedule.momentsOn` — the days of a year and the minutes of a day
- `Schedule.candidates` — the minutes of some years

## Main statements

- `occurrences_eq_filter` — the occurrences among the candidates
- `occurrences_eq_plainOccurrences` — keys and shortcuts change nothing
- `count_occurrences` — how often each moment occurs
-/

namespace Timetable

/-! ## Counting in nested lists -/

theorem flatMap_filter_eq {α β : Type} (p : α → Bool) (f : α → List β) (l : List α) :
    (l.filter p).flatMap f = l.flatMap fun a => if p a then f a else [] := by
  induction l with
  | nil => rfl
  | cons a l ih =>
    rw [List.filter_cons, List.flatMap_cons, ← ih]
    split
    · rw [List.flatMap_cons]
    · rfl

section
variable {α β : Type} [DecidableEq α] [DecidableEq β]

/-- If only the block of `v` can hold `b`, then `b` occurs in it once for each `v`. -/
theorem count_flatMap_of_forall_ne {l : List α} {f : α → List β} {v : α} {b : β}
    (h : ∀ a, a ≠ v → b ∉ f a) : (l.flatMap f).count b = l.count v * (f v).count b := by
  induction l with
  | nil => simp
  | cons a l ih =>
    rw [List.flatMap_cons, List.count_append, ih]
    by_cases ha : a = v
    · rw [ha, List.count_cons_self, Nat.add_mul, Nat.one_mul, Nat.add_comm]
    · rw [List.count_cons_of_ne ha, List.count_eq_zero_of_not_mem (h a ha), Nat.zero_add]

theorem count_filterMap_of_forall_ne {l : List α} {g : α → Option β} {v : α} {b : β}
    (h : ∀ a, g a = some b → a = v) :
    (l.filterMap g).count b = if g v = some b then l.count v else 0 := by
  have hne : ∀ a, a ≠ v → b ∉ (g a).toList := by
    intro a ha hb
    exact ha (h a (Option.mem_toList.1 hb))
  -- A value that gives something has a block of one element.
  rw [List.filterMap_eq_flatMap_toList, count_flatMap_of_forall_ne hne]
  cases hv : g v with
  | none => simp
  | some c =>
    by_cases hc : c = b
    · simp [hc]
    · simp [hc]

end

/-! ## Dates and minutes from their numbers -/

theorem Date.of?_eq_some_iff {year : Int} {month day : Nat} {date : Date} :
    Date.of? year month day = some date ↔
      date.year = year ∧ date.month = month ∧ date.day = day := by
  rw [Date.of?]
  constructor
  · intro h
    split at h
    · cases h
      exact ⟨rfl, rfl, rfl⟩
    · cases h
  · rintro ⟨rfl, rfl, rfl⟩
    rw [dif_pos date.exists_day]

theorem Date.inDigits_of? {year : Int} {month day : Nat} {date : Date}
    (h : Date.of? year month day = some date) :
    date.inDigits = (year * 100 + month) * 100 + day := by
  obtain ⟨rfl, rfl, rfl⟩ := Date.of?_eq_some_iff.1 h
  rfl

theorem Moment.ofMinute?_eq_some_iff {date : Date} {hour minute : Nat} {t : Moment} :
    Moment.ofMinute? date hour minute = some t ↔
      t.date = date ∧ t.hour = hour ∧ t.minute = minute ∧ t.floor = t := by
  rw [Moment.ofMinute?, Moment.of?]
  constructor
  · intro h
    split at h
    · cases h
      exact ⟨rfl, rfl, rfl, rfl⟩
    · cases h
  · rintro ⟨rfl, rfl, rfl, hfloor⟩
    obtain ⟨hsecond, hnano⟩ := Moment.floor_eq_iff.1 hfloor
    have htime := t.isTimeOfDay
    rw [hsecond, hnano] at htime
    rw [dif_pos htime]
    exact congrArg some hfloor

theorem Moment.inDigits_ofMinute? {date : Date} {hour minute : Nat} {t : Moment}
    (h : Moment.ofMinute? date hour minute = some t) :
    t.inDigits = (date.inDigits * 100 + hour) * 100 + minute := by
  obtain ⟨rfl, rfl, rfl, -⟩ := Moment.ofMinute?_eq_some_iff.1 h
  rfl

/-! ## Domains and weekdays -/

theorem Column.mem_domain {c : Column} {value : Nat} :
    value ∈ c.domain ↔ c.first ≤ value ∧ value ≤ c.last := by
  have hle : c.first ≤ c.last := by cases c <;> decide
  rw [domain, every, List.mem_range'_1, Nat.div_one]
  omega

theorem Column.pairwise_every (c : Column) {step : Nat} (h : 0 < step) :
    (c.every step).Pairwise (· < ·) :=
  List.pairwise_lt_range' step h

theorem Column.pairwise_domain (c : Column) : c.domain.Pairwise (· < ·) :=
  c.pairwise_every Nat.one_pos

theorem Date.weekday_lt (d : Date) : d.weekday < 7 := by
  rw [weekday]
  omega

theorem Date.month_mem_domain (d : Date) : d.month ∈ Column.month.domain :=
  Column.mem_domain.2 ⟨d.month_pos, d.month_le⟩

theorem Date.day_mem_domain (d : Date) : d.day ∈ Column.day.domain :=
  Column.mem_domain.2 ⟨d.day_pos, d.day_le⟩

theorem Date.weekday_mem_domain (d : Date) : d.weekday ∈ Column.weekday.domain :=
  Column.mem_domain.2 ⟨Nat.zero_le _, Nat.le_of_lt_succ d.weekday_lt⟩

theorem Field.contains_iff {c : Column} {f : Field c} {value : Nat} :
    f.contains value = true ↔ value ∈ f.values := by
  simp [Field.contains]

namespace Schedule

variable (s : Schedule)

/-- Leaving the weekday alone if all are listed is the same as looking it up. -/
theorem allowsWeekday_eq (d : Date) : s.allowsWeekday d = s.weekday.contains d.weekday := by
  rw [allowsWeekday]
  by_cases h : s.weekday.coversDomain = true
  · have hlisted : s.weekday.contains d.weekday = true := by
      apply List.all_eq_true.1 h
      exact d.weekday_mem_domain
    rw [hlisted, Bool.or_true]
  · rw [Bool.eq_false_iff.2 h, Bool.false_or]

/-! ## Candidates -/

/-- The days of a year that combine a month and a day of the schedule. -/
def datesIn (year : Int) : List Date :=
  s.month.values.flatMap fun month => s.day.values.filterMap fun day => Date.of? year month day

/-- The minutes of a day that combine an hour and a minute of the schedule. -/
def momentsOn (date : Date) : List Moment :=
  s.hour.values.flatMap fun hour =>
    s.minute.values.filterMap fun minute => Moment.ofMinute? date hour minute

/-- The minutes of some years that combine values of the schedule. -/
def candidates (years : List Int) : List Moment :=
  years.flatMap fun year => (s.datesIn year).flatMap s.momentsOn

theorem mem_datesIn {year : Int} {d : Date} :
    d ∈ s.datesIn year ↔
      d.year = year ∧ d.month ∈ s.month.values ∧ d.day ∈ s.day.values := by
  simp only [datesIn, List.mem_flatMap, List.mem_filterMap, Date.of?_eq_some_iff]
  constructor
  · rintro ⟨month, hmonth, day, hday, rfl, rfl, rfl⟩
    exact ⟨rfl, hmonth, hday⟩
  · rintro ⟨hyear, hmonth, hday⟩
    exact ⟨_, hmonth, _, hday, hyear, rfl, rfl⟩

theorem mem_momentsOn {date : Date} {t : Moment} :
    t ∈ s.momentsOn date ↔
      t.date = date ∧ t.hour ∈ s.hour.values ∧ t.minute ∈ s.minute.values ∧ t.floor = t := by
  simp only [momentsOn, List.mem_flatMap, List.mem_filterMap, Moment.ofMinute?_eq_some_iff]
  constructor
  · rintro ⟨hour, hhour, minute, hminute, hdate, rfl, rfl, hfloor⟩
    exact ⟨hdate, hhour, hminute, hfloor⟩
  · rintro ⟨hdate, hhour, hminute, hfloor⟩
    exact ⟨_, hhour, _, hminute, hdate, rfl, rfl, hfloor⟩

theorem mem_candidates {years : List Int} {t : Moment} :
    t ∈ s.candidates years ↔
      t.date.year ∈ years ∧ t.date ∈ s.datesIn t.date.year ∧ t ∈ s.momentsOn t.date := by
  simp only [candidates, List.mem_flatMap]
  constructor
  · rintro ⟨year, hyear, date, hdate, ht⟩
    obtain rfl := (s.mem_momentsOn.1 ht).1
    obtain rfl := (s.mem_datesIn.1 hdate).1
    exact ⟨hyear, hdate, ht⟩
  · rintro ⟨hyear, hdate, ht⟩
    exact ⟨_, hyear, _, hdate, ht⟩

/-! ## Counting candidates -/

theorem count_datesIn (year : Int) (d : Date) :
    (s.datesIn year).count d =
      if d.year = year then s.month.values.count d.month * s.day.values.count d.day else 0 := by
  have hmonths : ∀ month, month ≠ d.month →
      d ∉ s.day.values.filterMap fun day => Date.of? year month day := by
    intro month hne hmem
    obtain ⟨day, -, hday⟩ := List.mem_filterMap.1 hmem
    exact hne (Date.of?_eq_some_iff.1 hday).2.1.symm
  have hdays : ∀ day, Date.of? year d.month day = some d → day = d.day := by
    intro day hday
    exact (Date.of?_eq_some_iff.1 hday).2.2.symm
  rw [datesIn, count_flatMap_of_forall_ne hmonths, count_filterMap_of_forall_ne hdays]
  by_cases h : d.year = year
  · rw [if_pos h, if_pos (Date.of?_eq_some_iff.2 ⟨h, rfl, rfl⟩)]
  · rw [if_neg h, if_neg fun hday => h (Date.of?_eq_some_iff.1 hday).1, Nat.mul_zero]

theorem count_momentsOn (t : Moment) :
    (s.momentsOn t.date).count t =
      if t.floor = t then s.hour.values.count t.hour * s.minute.values.count t.minute
      else 0 := by
  have hhours : ∀ hour, hour ≠ t.hour →
      t ∉ s.minute.values.filterMap fun minute => Moment.ofMinute? t.date hour minute := by
    intro hour hne hmem
    obtain ⟨minute, -, hminute⟩ := List.mem_filterMap.1 hmem
    exact hne (Moment.ofMinute?_eq_some_iff.1 hminute).2.1.symm
  have hminutes : ∀ minute, Moment.ofMinute? t.date t.hour minute = some t →
      minute = t.minute := by
    intro minute hminute
    exact (Moment.ofMinute?_eq_some_iff.1 hminute).2.2.1.symm
  rw [momentsOn, count_flatMap_of_forall_ne hhours, count_filterMap_of_forall_ne hminutes]
  by_cases h : t.floor = t
  · rw [if_pos h, if_pos (Moment.ofMinute?_eq_some_iff.2 ⟨rfl, rfl, rfl, h⟩)]
  · rw [if_neg h, if_neg fun hminute => h (Moment.ofMinute?_eq_some_iff.1 hminute).2.2.2,
      Nat.mul_zero]

/-- A candidate occurs once for each way to take its parts from the lists. -/
theorem count_candidates (years : List Int) {t : Moment} (h : t.floor = t) :
    (s.candidates years).count t =
      years.count t.date.year * (s.month.values.count t.date.month *
        s.day.values.count t.date.day *
        (s.hour.values.count t.hour * s.minute.values.count t.minute)) := by
  have hyears : ∀ year, year ≠ t.date.year → t ∉ (s.datesIn year).flatMap s.momentsOn := by
    intro year hne hmem
    obtain ⟨date, hdate, ht⟩ := List.mem_flatMap.1 hmem
    rw [← (s.mem_momentsOn.1 ht).1] at hdate
    exact hne (s.mem_datesIn.1 hdate).1.symm
  have hdates : ∀ date, date ≠ t.date → t ∉ s.momentsOn date := by
    intro date hne hmem
    exact hne (s.mem_momentsOn.1 hmem).1.symm
  rw [candidates, count_flatMap_of_forall_ne hyears, count_flatMap_of_forall_ne hdates,
    count_datesIn, count_momentsOn, if_pos rfl, if_pos h]

end Schedule

/-! ## Years of a window -/

namespace Window

variable (w : Window)

theorem mem_years {year : Int} :
    year ∈ w.years ↔ w.earliest.date.year ≤ year ∧ year ≤ w.latest.date.year := by
  simp only [years, List.mem_map, List.mem_range]
  constructor
  · rintro ⟨n, hn, rfl⟩
    omega
  · rintro ⟨hfirst, hlast⟩
    exact ⟨(year - w.earliest.date.year).toNat, by omega, by omega⟩

/-- The years of a window have no sign, so that they can be counted from the first to the last. -/
theorem years_eq_map :
    w.years =
      (List.range' w.earliest.date.year.toNat
        (w.latest.date.year.toNat + 1 - w.earliest.date.year.toNat)).map fun n : Nat => ↑n := by
  have hearliest := w.fourDigitYear_earliest.1
  have hlatest := w.fourDigitYear_latest.1
  have hlength : (w.latest.date.year - w.earliest.date.year + 1).toNat =
      w.latest.date.year.toNat + 1 - w.earliest.date.year.toNat := by omega
  rw [years, hlength, List.range'_eq_map_range, List.map_map]
  apply List.map_congr_left
  intro n _
  rw [Function.comp_apply, Int.natCast_add, Int.toNat_of_nonneg hearliest]

theorem pairwise_years : w.years.Pairwise (· < ·) := by
  rw [years, List.pairwise_map]
  exact List.pairwise_lt_range.imp fun h => by omega

theorem fourDigitYear_of_mem_years {year : Int} (h : year ∈ w.years) : IsFourDigitYear year := by
  obtain ⟨hfirst, hlast⟩ := w.mem_years.1 h
  exact ⟨Int.le_trans w.fourDigitYear_earliest.1 hfirst,
    Int.le_trans hlast w.fourDigitYear_latest.2⟩

theorem year_mem_years {t : Moment} (h : w.contains t = true) : t.date.year ∈ w.years := by
  obtain ⟨hearliest, hlatest⟩ := w.contains_iff.1 h
  exact w.mem_years.2 ⟨Moment.year_le_of_le hearliest, Moment.year_le_of_le hlatest⟩

theorem count_years {t : Moment} (h : w.contains t = true) :
    w.years.count t.date.year = 1 :=
  List.count_eq_one_of_mem (w.pairwise_years.imp fun hlt => Int.ne_of_lt hlt)
    (w.year_mem_years h)

end Window

/-! ## Occurrences among the candidates -/

namespace Schedule

variable (s : Schedule) (w : Window)

/-- Whether a candidate is an occurrence. -/
def fires (t : Moment) : Bool :=
  w.contains t && s.weekday.contains t.date.weekday

theorem fires_iff {t : Moment} :
    s.fires w t = true ↔ w.contains t = true ∧ t.date.weekday ∈ s.weekday.values := by
  rw [fires, Bool.and_eq_true, Field.contains_iff]

/-- The key in the comparison of days is that of the first minute of the day. -/
theorem daysIn_eq_filter {year : Int} :
    s.daysIn w year = (s.datesIn year).filter fun date =>
      w.admitsDay (Moment.firstOf date).key && s.allowsWeekday date := by
  rw [daysIn, datesIn, List.filter_flatMap]
  apply List.flatMap_congr
  intro month _
  rw [List.filter_filterMap]
  apply List.filterMap_congr
  intro day _
  cases h : Date.of? year month day with
  | none => simp
  | some date =>
    obtain ⟨rfl, rfl, rfl⟩ := Date.of?_eq_some_iff.1 h
    -- The comparison is made before the date is built, but with the same numbers.
    have hkey : StampKey.of date.year.toNat date.month date.day 0 0 =
        (Moment.firstOf date).key := rfl
    rw [hkey, Option.filter_some, Option.filter_some]
    by_cases hadmits : w.admitsDay (Moment.firstOf date).key = true
    · rw [if_pos hadmits, hadmits, Bool.true_and]
    · rw [if_neg hadmits, Bool.eq_false_iff.2 hadmits]
      rfl

/-- In a year with four digits the comparison of keys keeps the minutes in the window. -/
theorem timesOn_eq_filter {date : Date} (hyear : IsFourDigitYear date.year) :
    s.timesOn w date = (s.momentsOn date).filter w.contains := by
  rw [timesOn, momentsOn, List.filter_flatMap]
  apply List.flatMap_congr
  intro hour _
  rw [List.filter_filterMap]
  apply List.filterMap_congr
  intro minute _
  cases h : Moment.ofMinute? date hour minute with
  | none => simp
  | some t =>
    obtain ⟨rfl, rfl, rfl, hfloor⟩ := Moment.ofMinute?_eq_some_iff.1 h
    have hkey : StampKey.of t.date.year.toNat t.date.month t.date.day t.hour t.minute =
        t.key := rfl
    rw [hkey, w.admits_key hfloor hyear, Option.filter_some]

/-- A day that the comparison of days turns away has no minute in the window. -/
theorem filter_contains_momentsOn_eq_nil {date : Date}
    (h : w.admitsDay (Moment.firstOf date).key ≠ true) :
    (s.momentsOn date).filter w.contains = [] := by
  rw [List.filter_eq_nil_iff]
  intro t ht hcontains
  obtain ⟨rfl, -⟩ := s.mem_momentsOn.1 ht
  apply h
  rw [← w.admitsDay_of_contains hcontains]
  exact (w.admitsDay_of _ _ _ _ _).symm

/-- What is left of a day after both comparisons are its minutes that fire. -/
theorem filter_fires_momentsOn {date : Date} :
    (s.momentsOn date).filter (s.fires w) =
      if w.admitsDay (Moment.firstOf date).key && s.allowsWeekday date then
        (s.momentsOn date).filter w.contains
      else [] := by
  have hfires : ∀ t ∈ s.momentsOn date,
      s.fires w t = (w.contains t && s.weekday.contains date.weekday) := by
    intro t ht
    rw [fires, (s.mem_momentsOn.1 ht).1]
  rw [List.filter_congr hfires, s.allowsWeekday_eq]
  by_cases hweekday : s.weekday.contains date.weekday = true
  · -- Only the comparison of days is left, and it loses nothing.
    simp only [hweekday, Bool.and_true]
    split
    · rfl
    · next hadmits => exact s.filter_contains_momentsOn_eq_nil w hadmits
  · simp only [Bool.eq_false_iff.2 hweekday, Bool.and_false, List.filter_false]
    rfl

end Schedule

/-- The occurrences are the candidates that the window contains and whose weekday is listed. -/
theorem occurrences_eq_filter (s : Schedule) (w : Window) :
    occurrences s w = (s.candidates w.years).filter (s.fires w) := by
  rw [occurrences, Schedule.candidates, List.filter_flatMap]
  apply List.flatMap_congr
  intro year hyear
  -- The keys of a window's years have all digits, so that they tell the years apart.
  have hfour := w.fourDigitYear_of_mem_years hyear
  rw [List.filter_flatMap, s.daysIn_eq_filter, flatMap_filter_eq]
  apply List.flatMap_congr
  intro date hdate
  rw [← (s.mem_datesIn.1 hdate).1] at hfour
  rw [s.filter_fires_momentsOn, s.timesOn_eq_filter w hfour]

theorem plainOccurrences_eq_filter (s : Schedule) (w : Window) :
    plainOccurrences s w = (s.candidates w.years).filter (s.fires w) := by
  rw [plainOccurrences, Schedule.candidates, w.years_eq_map, List.flatMap_map,
    List.filter_flatMap]
  apply List.flatMap_congr
  intro year _
  rw [Schedule.datesIn, List.flatMap_assoc, List.filter_flatMap]
  apply List.flatMap_congr
  intro month _
  rw [List.filterMap_eq_flatMap_toList, List.flatMap_assoc, List.filter_flatMap]
  apply List.flatMap_congr
  intro day _
  cases Date.of? year month day with
  | none => simp
  | some date =>
    rw [Option.toList_some, List.flatMap_singleton, Schedule.momentsOn, List.filter_flatMap]
    apply List.flatMap_congr
    intro hour _
    rw [List.filter_filterMap]
    rfl

/-- Comparing keys, passing over days and leaving out the weekday change nothing: the
occurrences are those of the plain nested search, in the same order and as often. -/
theorem occurrences_eq_plainOccurrences (s : Schedule) (w : Window) :
    occurrences s w = plainOccurrences s w := by
  rw [occurrences_eq_filter, plainOccurrences_eq_filter]

theorem mem_occurrences {s : Schedule} {w : Window} {t : Moment} :
    t ∈ occurrences s w ↔
      t.floor = t ∧ w.contains t = true ∧ t.date.month ∈ s.month.values ∧
        t.date.day ∈ s.day.values ∧ t.hour ∈ s.hour.values ∧ t.minute ∈ s.minute.values ∧
        t.date.weekday ∈ s.weekday.values := by
  rw [occurrences_eq_filter, List.mem_filter, s.fires_iff, s.mem_candidates, s.mem_datesIn,
    s.mem_momentsOn]
  constructor
  · rintro ⟨⟨-, ⟨-, hmonth, hday⟩, -, hhour, hminute, hfloor⟩, hcontains, hweekday⟩
    exact ⟨hfloor, hcontains, hmonth, hday, hhour, hminute, hweekday⟩
  · rintro ⟨hfloor, hcontains, hmonth, hday, hhour, hminute, hweekday⟩
    exact ⟨⟨w.year_mem_years hcontains, ⟨rfl, hmonth, hday⟩, rfl, hhour, hminute, hfloor⟩,
      hcontains, hweekday⟩

/-- A beginning of a minute between the ends of the window, on a listed weekday, occurs once
for each choice of its month, day, hour and minute from the lists. No other moment occurs. -/
theorem count_occurrences (s : Schedule) (w : Window) (t : Moment) :
    (occurrences s w).count t =
      if t.second = 0 ∧ t.nano = 0 ∧ w.earliest ≤ t ∧ t ≤ w.latest ∧
          t.date.weekday ∈ s.weekday.values then
        s.month.values.count t.date.month * s.day.values.count t.date.day *
          s.hour.values.count t.hour * s.minute.values.count t.minute
      else 0 := by
  split
  · next h =>
    obtain ⟨hsecond, hnano, hearliest, hlatest, hweekday⟩ := h
    have hfloor := Moment.floor_eq_iff.2 ⟨hsecond, hnano⟩
    have hcontains := w.contains_iff.2 ⟨hearliest, hlatest⟩
    rw [occurrences_eq_filter, List.count_filter ((s.fires_iff w).2 ⟨hcontains, hweekday⟩),
      s.count_candidates w.years hfloor, w.count_years hcontains, Nat.one_mul, Nat.mul_assoc,
      Nat.mul_assoc, Nat.mul_assoc]
  · next h =>
    rw [List.count_eq_zero]
    intro hmem
    obtain ⟨hfloor, hcontains, -, -, -, -, hweekday⟩ := mem_occurrences.1 hmem
    obtain ⟨hsecond, hnano⟩ := Moment.floor_eq_iff.1 hfloor
    obtain ⟨hearliest, hlatest⟩ := w.contains_iff.1 hcontains
    exact h ⟨hsecond, hnano, hearliest, hlatest, hweekday⟩

end Timetable
