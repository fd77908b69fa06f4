import Mathlib
import Timetable.Proofs.Chronology
import Timetable.Proofs.WindowEnds
/-!
# Jobs on days of the week

The days are numbered without gaps through the ends of months and years, and each one has the
weekday after that of the day before. A job at one time of the day on some weekdays therefore
fires, over a window of whole days, on those of its days whose weekday is listed. Over whole weeks
every listed weekday comes as often as there are weeks, and a single one comes every seven days.

## Main definitions

- `Schedule.onWeekdays` — once a day, on some weekdays
- `Moment.onDay` — a time of day on a day
- `Window.OfDays` — the whole days of a window

## Main statements

- `Date.weekday_next_iterate` — the weekday some days later
- `Schedule.occurrences_onWeekdays` — the days on which a job fires
- `card_weekdays` — how often the listed weekdays come in some weeks
- `weekday_jobs_fire_weekly` — jobs over whole weeks
-/

namespace Timetable

namespace Date

/-! ## Days one after the other -/

theorem dayNumber_next_iterate (d : Date) (n : Nat) :
    (next^[n] d).dayNumber = d.dayNumber + n := by
  induction n with
  | zero => simp
  | succ n ih =>
    rw [Function.iterate_succ_apply', dayNumber_next, ih]
    omega

/-- A later day is reached in as many steps as the numbers differ. -/
theorem exists_iterate_next {d e : Date} (h : d.dayNumber ≤ e.dayNumber) :
    ∃ n : Nat, next^[n] d = e ∧ (n : Int) = e.dayNumber - d.dayNumber := by
  obtain ⟨n, hn⟩ := Int.eq_ofNat_of_zero_le (Int.sub_nonneg_of_le h)
  refine ⟨n, dayNumber_injective ?_, hn.symm⟩
  rw [dayNumber_next_iterate]
  omega

/-- The weekdays follow each other in turn. -/
theorem weekday_next_iterate (d : Date) (n : Nat) :
    (next^[n] d).weekday = (d.weekday + n) % 7 := by
  rw [weekday, weekday, dayNumber_next_iterate]
  omega

end Date

/-! ## Times of day on whole days -/

/-- The minute of a day at an hour and a minute. -/
def Moment.onDay {hour minute : Nat} (hhour : hour < 24) (hminute : minute < 60) (d : Date) :
    Moment :=
  ⟨d, hour, minute, 0, 0, hhour, hminute, by decide, .inl (by decide)⟩

/-- Due at one time of the day, on the listed weekdays. -/
def Schedule.onWeekdays (hour minute : Nat) (weekdays : List Nat) (command : String) : Schedule :=
  { minute := ⟨[minute]⟩
    hour := ⟨[hour]⟩
    day := .full .day
    month := .full .month
    weekday := ⟨weekdays⟩
    command := command }

/-- The window is made of whole days, `n + 1` of them from `d` on. -/
structure Window.OfDays (w : Window) (d : Date) (n : Nat) : Prop where
  earliest : w.earliest = .firstOf d
  latest : w.latest = .lastOf (Date.next^[n] d)

namespace Window

variable {w : Window} {d : Date} {n : Nat}

theorem exists_ofDays (hfirst : IsFourDigitYear d.year)
    (hlast : IsFourDigitYear (Date.next^[n] d).year) :
    ∃ w, new (Moment.firstOf d) (Moment.lastOf (Date.next^[n] d)) = .ok w := by
  apply exists_new_iff.2 ⟨?_, hfirst, hlast⟩
  rw [Moment.le_iff_minuteNumber_le rfl rfl]
  have hnumber := d.dayNumber_next_iterate n
  simp only [Moment.floor_reading, Moment.floor, Moment.firstOf, Moment.lastOf, Moment.minuteNumber]
  omega

theorem ofDays_of_new (h : new (Moment.firstOf d) (Moment.lastOf (Date.next^[n] d)) = .ok w) :
    w.OfDays d n := by
  obtain ⟨hearliest, hlatest⟩ := new_eq_ok_iff.1 h
  exact ⟨hearliest, hlatest⟩

/-- The minutes of the window are those of its days. -/
theorem OfDays.contains_iff (h : w.OfDays d n) {t : Moment} (hfloor : t.floor = t) :
    w.contains t = true ↔ ∃ i < n + 1, Date.next^[i] d = t.date := by
  obtain ⟨hhour, hminute, -⟩ := t.isTimeOfDay
  have hlast := d.dayNumber_next_iterate n
  rw [w.contains_iff_minuteNumber hfloor, h.earliest, h.latest]
  simp only [Moment.minuteNumber, Moment.firstOf, Moment.lastOf]
  constructor
  · rintro ⟨hearliest, hlatest⟩
    obtain ⟨i, hi, hnumber⟩ := Date.exists_iterate_next (d := d) (e := t.date) (by omega)
    exact ⟨i, by omega, hi⟩
  · rintro ⟨i, hi, hdate⟩
    have hnumber := d.dayNumber_next_iterate i
    rw [hdate] at hnumber
    omega

end Window

namespace Schedule

variable {hour minute : Nat} (hhour : hour < 24) (hminute : minute < 60) (weekdays : List Nat)
  (command : String) {w : Window} {d : Date} {n : Nat}

theorem ascending_onWeekdays : (onWeekdays hour minute weekdays command).Ascending where
  month := Column.month.pairwise_domain
  day := Column.day.pairwise_domain
  hour := List.pairwise_singleton _ _
  minute := List.pairwise_singleton _ _

theorem mem_occurrences_onWeekdays {t : Moment} :
    t ∈ occurrences (onWeekdays hour minute weekdays command) w ↔
      w.contains t = true ∧ t.date.weekday ∈ weekdays ∧ .onDay hhour hminute t.date = t := by
  rw [mem_occurrences]
  constructor
  · rintro ⟨hfloor, hcontains, -, -, hthour, htminute, hweekday⟩
    obtain ⟨hsecond, hnano⟩ := Moment.floor_eq_iff.1 hfloor
    refine ⟨hcontains, hweekday, Moment.ext rfl ?_ ?_ hsecond.symm hnano.symm⟩
    · exact (List.mem_singleton.1 hthour).symm
    · exact (List.mem_singleton.1 htminute).symm
  · rintro ⟨hcontains, hweekday, ht⟩
    refine ⟨?_, hcontains, t.date.month_mem_domain, t.date.day_mem_domain, ?_, ?_, hweekday⟩
    · rw [← ht]
      rfl
    · rw [← ht]
      exact List.mem_singleton_self hour
    · rw [← ht]
      exact List.mem_singleton_self minute

/-- A job fires on those days of a window whose weekday is listed. -/
theorem occurrences_onWeekdays (h : w.OfDays d n) :
    occurrences (onWeekdays hour minute weekdays command) w =
      ((List.range (n + 1)).filter fun i => (d.weekday + i) % 7 ∈ weekdays).map fun i =>
        .onDay hhour hminute (Date.next^[i] d) := by
  -- Both lists ascend, so that it is enough that they have the same members.
  apply List.Pairwise.eq_of_mem_iff ((ascending_onWeekdays weekdays command).pairwise_occurrences w)
  · rw [List.pairwise_map]
    apply (List.pairwise_lt_range.filter _).imp
    intro i j hij
    rw [Moment.lt_iff_minuteNumber_lt rfl rfl]
    simp only [Moment.minuteNumber, Moment.onDay, Date.dayNumber_next_iterate]
    omega
  · intro t
    rw [mem_occurrences_onWeekdays hhour hminute, List.mem_map]
    constructor
    · rintro ⟨hcontains, hweekday, ht⟩
      have hfloor : t.floor = t := by
        rw [← ht]
        rfl
      obtain ⟨i, hi, hdate⟩ := (h.contains_iff hfloor).1 hcontains
      refine ⟨i, List.mem_filter.2 ⟨List.mem_range.2 hi, ?_⟩, ?_⟩
      · rwa [decide_eq_true_iff, ← Date.weekday_next_iterate, hdate]
      · rw [hdate, ht]
    · rintro ⟨i, hi, rfl⟩
      obtain ⟨hi, hweekday⟩ := List.mem_filter.1 hi
      rw [decide_eq_true_iff, ← Date.weekday_next_iterate] at hweekday
      exact ⟨(h.contains_iff rfl).2 ⟨i, List.mem_range.1 hi, rfl⟩, hweekday, rfl⟩

end Schedule

/-! ## Whole weeks -/

/-- Seven days in a row have all weekdays. -/
theorem weekdays_perm (first : Nat) :
    ((List.range 7).map fun i => (first + i) % 7).Perm (List.range 7) := by
  -- Only the remainder of the first one matters, of which there are seven.
  have hweek : ∀ r < 7, ((List.range 7).map fun i => (r + i) % 7).Perm (List.range 7) := by decide
  have hfirst := hweek (first % 7) (Nat.mod_lt first (by decide))
  simpa only [Nat.mod_add_mod] using hfirst

theorem countP_range_seven (weekdays : List Nat) :
    (List.range 7).countP (· ∈ weekdays) = (weekdays.toFinset.filter (· ≤ 6)).card := by
  rw [List.countP_eq_length_filter, ← List.toFinset_card_of_nodup (List.nodup_range.filter _)]
  congr 1
  ext weekday
  simp only [List.mem_toFinset, List.mem_filter, List.mem_range, decide_eq_true_iff,
    Finset.mem_filter]
  rw [and_comm, Nat.lt_succ_iff]

/-- In `k` weeks each listed weekday comes `k` times, from whatever weekday on. -/
theorem countP_weekdays (weekdays : List Nat) (first k : Nat) :
    (List.range (7 * k)).countP (fun i => (first + i) % 7 ∈ weekdays) =
      k * (weekdays.toFinset.filter (· ≤ 6)).card := by
  induction k with
  | zero => simp
  | succ k ih =>
    -- The last week begins `7 * k` days later and holds every weekday once.
    have hweek := (weekdays_perm (first + 7 * k)).countP_eq (· ∈ weekdays)
    rw [List.countP_map, countP_range_seven] at hweek
    rw [Nat.mul_add_one, List.range_add, List.countP_append, ih, List.countP_map,
      Nat.add_one_mul k, ← hweek]
    simp only [Function.comp_def, Nat.add_assoc]

/-- In `k` weeks a single weekday comes every seven days. -/
theorem filter_weekday {weekday : Nat} (hweekday : weekday < 7) (first k : Nat) :
    ((List.range (7 * k)).filter fun i => (first + i) % 7 = weekday) =
      (List.range k).map fun week => (weekday + 7 - first % 7) % 7 + 7 * week := by
  apply (List.pairwise_lt_range.filter _).eq_of_mem_iff
  · rw [List.pairwise_map]
    apply List.pairwise_lt_range.imp
    omega
  · intro i
    simp only [List.mem_filter, List.mem_map, List.mem_range, decide_eq_true_iff]
    constructor
    · rintro ⟨hi, hmod⟩
      exact ⟨i / 7, by omega, by omega⟩
    · rintro ⟨week, hweek, rfl⟩
      omega

namespace Schedule

variable {hour minute k : Nat} (hhour : hour < 24) (hminute : minute < 60) (command : String)
  {w : Window} {d : Date} (hk : 1 ≤ k) (h : w.OfDays d (7 * k - 1))

include hhour hminute hk h

theorem length_occurrences_onWeekdays (weekdays : List Nat) :
    (occurrences (onWeekdays hour minute weekdays command) w).length =
      k * (weekdays.toFinset.filter (· ≤ 6)).card := by
  rw [occurrences_onWeekdays hhour hminute weekdays command h, List.length_map,
    ← List.countP_eq_length_filter, Nat.sub_add_cancel (by omega), countP_weekdays]

/-- The occurrences on a weekday follow each other after a week. -/
theorem isChain_occurrences_onWeekdays {weekday : Nat} (hweekday : weekday < 7) :
    (occurrences (onWeekdays hour minute [weekday] command) w).IsChain fun a b =>
      b.date = Date.next^[7] a.date ∧ b.minuteNumber = a.minuteNumber + 7 * 1440 := by
  rw [occurrences_onWeekdays hhour hminute [weekday] command h, Nat.sub_add_cancel (by omega)]
  simp only [List.mem_singleton]
  rw [filter_weekday hweekday, List.map_map, List.isChain_map, List.isChain_range]
  intro week _
  constructor
  · simp only [Function.comp_apply, Moment.onDay]
    rw [← Function.iterate_add_apply]
    congr 1
    omega
  · simp only [Function.comp_apply, Moment.minuteNumber, Moment.onDay, Date.dayNumber_next_iterate]
    omega

end Schedule

/-- From the beginning of any day to the end of the last one of `k` weeks there is a window, if its
years have four digits. Over it a job at one time of the day on one weekday fires `k` times, and
each time but the first seven days after the time before. On the weekdays of a list it fires `k`
times for each different one among them, while repetitions and numbers that are no weekdays do not
count. -/
theorem weekday_jobs_fire_weekly (d : Date) (k hour minute : Nat) (command : String) (hk : 1 ≤ k)
    (hhour : hour ≤ 23) (hminute : minute ≤ 59) (hfirst : 0 ≤ d.year ∧ d.year ≤ 9999)
    (hlast : 0 ≤ (Date.next^[7 * k - 1] d).year ∧ (Date.next^[7 * k - 1] d).year ≤ 9999) :
    ∃ w, Window.new (Moment.firstOf d) (Moment.lastOf (Date.next^[7 * k - 1] d)) = .ok w ∧
      (∀ weekday ≤ 6,
        (occurrences (.onWeekdays hour minute [weekday] command) w).length = k ∧
          (occurrences (.onWeekdays hour minute [weekday] command) w).IsChain fun a b =>
            b.date = Date.next^[7] a.date ∧ b.minuteNumber = a.minuteNumber + 7 * 1440) ∧
      ∀ weekdays : List Nat,
        (occurrences (.onWeekdays hour minute weekdays command) w).length =
          k * (weekdays.toFinset.filter (· ≤ 6)).card := by
  obtain ⟨w, hw⟩ := Window.exists_ofDays hfirst hlast
  have hdays := Window.ofDays_of_new hw
  have hhour : hour < 24 := by omega
  have hminute : minute < 60 := by omega
  have hlength := Schedule.length_occurrences_onWeekdays hhour hminute command hk hdays
  refine ⟨w, hw, ?_, hlength⟩
  intro weekday hweekday
  refine ⟨?_, Schedule.isChain_occurrences_onWeekdays hhour hminute command hk hdays (by omega)⟩
  have hone : ([weekday].toFinset.filter (· ≤ 6)).card = 1 := by
    rw [List.toFinset_cons, List.toFinset_nil, insert_empty_eq, Finset.filter_singleton,
      if_pos hweekday, Finset.card_singleton]
  rw [hlength, hone, Nat.mul_one]

/-- Two weeks around a leap day, with weekdays that are listed twice and a number that is none. -/
theorem weekday_jobs_fire_weekly_around_leap_day :
    ∃ w : Window, ∃ s : Schedule,
      Window.parse "2000-02-24 00:00" "2000-03-08 23:59" = .ok w ∧
        Schedule.parse "30 12 * * 6,9,0,6 lunch" = .ok s ∧
        (occurrences s w).map Moment.minuteText =
          ["2000-02-26 12:30", "2000-02-27 12:30", "2000-03-04 12:30", "2000-03-05 12:30"] ∧
        (occurrences s w).length = 2 * ([6, 9, 0, 6].toFinset.filter (· ≤ 6)).card ∧
        (occurrences (.onWeekdays 12 30 [3] "lunch") w).length = 2 ∧
        (occurrences (.onWeekdays 12 30 [3] "lunch") w).IsChain fun a b =>
          b.date = Date.next^[7] a.date ∧ b.minuteNumber = a.minuteNumber + 7 * 1440 := by
  have hlast : Date.next^[7 * 2 - 1] ⟨2000, 2, 24, by decide⟩ = ⟨2000, 3, 8, by decide⟩ := by rfl
  obtain ⟨w, hw, honce, hlist⟩ := weekday_jobs_fire_weekly ⟨2000, 2, 24, by decide⟩ 2 12 30 "lunch"
    (by decide) (by decide) (by decide) (by decide) (by rw [hlast]; decide)
  have hparse : Window.parse "2000-02-24 00:00" "2000-03-08 23:59" = .ok w := by
    rw [← hw, hlast]
    rfl
  have htimes : (occurrences (.onWeekdays 12 30 [6, 9, 0, 6] "lunch") w).map Moment.minuteText =
      ["2000-02-26 12:30", "2000-02-27 12:30", "2000-03-04 12:30", "2000-03-05 12:30"] := by
    have hw : w = ⟨.firstOf ⟨2000, 2, 24, by decide⟩, .lastOf ⟨2000, 3, 8, by decide⟩,
        _, _, rfl, rfl, by decide, by decide, by decide, rfl, rfl⟩ :=
      Except.ok.inj (hparse.symm.trans rfl)
    rw [hw]
    decide
  obtain ⟨hlength, hweek⟩ := honce 3 (by decide)
  exact ⟨w, .onWeekdays 12 30 [6, 9, 0, 6] "lunch", hparse, rfl, htimes, hlist [6, 9, 0, 6],
    hlength, hweek⟩

end Timetable
