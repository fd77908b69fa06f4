import Timetable.Proofs.Occurrences
/-!
# Occurrences in the order of time

A schedule whose lists ascend strictly fires in the order of time and never twice at once: the
years ascend, and each part of a date and of a time of day decides before the parts after it.

## Main definitions

- `Schedule.Ascending` — the lists of all columns but the weekday ascend strictly

## Main statements

- `Schedule.Ascending.pairwise_occurrences` — the occurrences are in strict order
-/

namespace Timetable

namespace Schedule

/-! ## Blocks in order -/

section
variable {s : Schedule}

/-- A later month outweighs any day. -/
theorem lt_of_month_lt {year : Int} {month month' : Nat} (hmonth : month < month') {days : List Nat}
    {a b : Date} (ha : a ∈ days.filterMap fun day => Date.of? year month day)
    (hb : b ∈ days.filterMap fun day => Date.of? year month' day) : a.inDigits < b.inDigits := by
  obtain ⟨day, -, ha⟩ := List.mem_filterMap.1 ha
  obtain ⟨day', -, hb⟩ := List.mem_filterMap.1 hb
  obtain ⟨hya, hma, -⟩ := Date.of?_eq_some_iff.1 ha
  obtain ⟨hyb, hmb, -⟩ := Date.of?_eq_some_iff.1 hb
  exact Date.inDigits_lt_of_month_lt (hya.trans hyb.symm) (by omega)

/-- A later hour outweighs any minute. -/
theorem lt_of_hour_lt {date : Date} {hour hour' : Nat} (hhour : hour < hour')
    {minutes : List Nat} {a b : Moment}
    (ha : a ∈ minutes.filterMap fun minute => Moment.ofMinute? date hour minute)
    (hb : b ∈ minutes.filterMap fun minute => Moment.ofMinute? date hour' minute) :
    a.inDigits < b.inDigits := by
  obtain ⟨minute, -, ha⟩ := List.mem_filterMap.1 ha
  obtain ⟨minute', -, hb⟩ := List.mem_filterMap.1 hb
  obtain ⟨hda, hha, -⟩ := Moment.ofMinute?_eq_some_iff.1 ha
  obtain ⟨hdb, hhb, -⟩ := Moment.ofMinute?_eq_some_iff.1 hb
  exact Moment.inDigits_lt_of_hour_lt (hda.trans hdb.symm) (by omega)

/-- A later day outweighs any time of day. -/
theorem lt_of_date_lt {date date' : Date} (hdate : date.inDigits < date'.inDigits) {a b : Moment}
    (ha : a ∈ s.momentsOn date) (hb : b ∈ s.momentsOn date') : a.inDigits < b.inDigits := by
  obtain ⟨rfl, -⟩ := s.mem_momentsOn.1 ha
  obtain ⟨rfl, -⟩ := s.mem_momentsOn.1 hb
  exact Moment.inDigits_lt_of_date_lt hdate

/-- A later year outweighs any date. -/
theorem lt_of_year_lt {year year' : Int} (hyear : year < year') {a b : Moment}
    (ha : a ∈ (s.datesIn year).flatMap s.momentsOn)
    (hb : b ∈ (s.datesIn year').flatMap s.momentsOn) : a.inDigits < b.inDigits := by
  obtain ⟨date, hdate, ha⟩ := List.mem_flatMap.1 ha
  obtain ⟨date', hdate', hb⟩ := List.mem_flatMap.1 hb
  have hya := (s.mem_datesIn.1 hdate).1
  have hyb := (s.mem_datesIn.1 hdate').1
  exact lt_of_date_lt (Date.inDigits_lt_of_year_lt (by omega)) ha hb

end

/-! ## Ascending schedules -/

/-- The months, days, hours and minutes are listed in strictly ascending order. -/
structure Ascending (s : Schedule) : Prop where
  month : s.month.values.Pairwise (· < ·)
  day : s.day.values.Pairwise (· < ·)
  hour : s.hour.values.Pairwise (· < ·)
  minute : s.minute.values.Pairwise (· < ·)

namespace Ascending

variable {s : Schedule} (h : s.Ascending)

include h

theorem pairwise_datesIn (year : Int) :
    (s.datesIn year).Pairwise fun a b => a.inDigits < b.inDigits := by
  rw [datesIn, List.pairwise_flatMap]
  constructor
  · intro month _
    rw [List.pairwise_filterMap]
    apply h.day.imp
    intro day day' hlt a ha b hb
    rw [Date.inDigits_of? ha, Date.inDigits_of? hb]
    omega
  · apply h.month.imp
    intro month month' hlt a ha b hb
    exact lt_of_month_lt hlt ha hb

theorem pairwise_momentsOn (date : Date) :
    (s.momentsOn date).Pairwise fun a b => a.inDigits < b.inDigits := by
  rw [momentsOn, List.pairwise_flatMap]
  constructor
  · intro hour _
    rw [List.pairwise_filterMap]
    apply h.minute.imp
    intro minute minute' hlt a ha b hb
    rw [Moment.inDigits_ofMinute? ha, Moment.inDigits_ofMinute? hb]
    omega
  · apply h.hour.imp
    intro hour hour' hlt a ha b hb
    exact lt_of_hour_lt hlt ha hb

/-- The candidates of ascending years ascend. -/
theorem pairwise_candidates {years : List Int} (hyears : years.Pairwise (· < ·)) :
    (s.candidates years).Pairwise fun a b => a.inDigits < b.inDigits := by
  rw [candidates, List.pairwise_flatMap]
  constructor
  · intro year _
    rw [List.pairwise_flatMap]
    refine ⟨fun date _ => h.pairwise_momentsOn date, ?_⟩
    apply (h.pairwise_datesIn year).imp
    intro date date' hlt a ha b hb
    exact lt_of_date_lt hlt ha hb
  · apply hyears.imp
    intro year year' hlt a ha b hb
    exact lt_of_year_lt hlt ha hb

/-- The occurrences are in strict order of time. -/
theorem pairwise_occurrences (w : Window) : (occurrences s w).Pairwise (· < ·) := by
  rw [occurrences_eq_filter]
  have hcandidates := (h.pairwise_candidates w.pairwise_years).filter (s.fires w)
  apply hcandidates.imp_of_mem
  intro a b ha hb hlt
  have hfa := (s.mem_momentsOn.1 (s.mem_candidates.1 (List.mem_filter.1 ha).1).2.2).2.2.2
  have hfb := (s.mem_momentsOn.1 (s.mem_candidates.1 (List.mem_filter.1 hb).1).2.2).2.2.2
  rw [Moment.lt_iff_minuteNumber_lt hfa hfb, Moment.minuteNumber_lt_iff]
  exact hlt

end Ascending

end Schedule

end Timetable
