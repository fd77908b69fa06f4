import Mathlib
import Timetable.Proofs.JobEvents
/-!
# Jobs told by their number of occurrences

A schedule that repeats no value in a list never fires twice at once, in whatever order the lists
are. Its occurrences are then some of the minutes of the window, each at most once, so that they
are as many as the window has minutes only if they are all of them. Taking such a job for one that
fires every minute, on account of that number alone, is therefore right.

## Main definitions

- `Schedule.Distinct` — the lists of all columns but the weekday repeat nothing

## Main statements

- `Schedule.Distinct.nodup_occurrences` — no minute occurs twice
- `Schedule.Distinct.perm_eachMinute_iff` — as many as all minutes are all minutes
- `everyMinute_recognised_by_count` — which jobs are taken to fire every minute
-/

namespace Timetable

namespace Schedule

/-- No month, day, hour or minute is listed twice. -/
structure Distinct (s : Schedule) : Prop where
  month : s.month.values.Nodup
  day : s.day.values.Nodup
  hour : s.hour.values.Nodup
  minute : s.minute.values.Nodup

namespace Distinct

variable {s : Schedule} (h : s.Distinct)

include h

/-- A candidate has one way only to take its parts from the lists. -/
theorem nodup_candidates {years : List Int} (hyears : years.Nodup) :
    (s.candidates years).Nodup := by
  rw [List.nodup_iff_count_le_one]
  intro t
  by_cases hfloor : t.floor = t
  · have hyear := List.nodup_iff_count_le_one.1 hyears t.date.year
    have hmonth := List.nodup_iff_count_le_one.1 h.month t.date.month
    have hday := List.nodup_iff_count_le_one.1 h.day t.date.day
    have hhour := List.nodup_iff_count_le_one.1 h.hour t.hour
    have hminute := List.nodup_iff_count_le_one.1 h.minute t.minute
    rw [s.count_candidates years hfloor]
    exact Nat.mul_le_mul hyear
      (Nat.mul_le_mul (Nat.mul_le_mul hmonth hday) (Nat.mul_le_mul hhour hminute))
  · have hmem : t ∉ s.candidates years := fun hmem =>
      hfloor (s.mem_momentsOn.1 (s.mem_candidates.1 hmem).2.2).2.2.2
    rw [List.count_eq_zero_of_not_mem hmem]
    exact Nat.zero_le 1

variable (w : Window)

theorem nodup_occurrences : (occurrences s w).Nodup := by
  rw [occurrences_eq_filter]
  exact (h.nodup_candidates (w.pairwise_years.imp Int.ne_of_lt)).filter _

theorem subperm_eachMinute : (occurrences s w).Subperm w.eachMinute := by
  apply List.subperm_of_subset (h.nodup_occurrences w)
  intro t ht
  obtain ⟨hfloor, hcontains, -⟩ := mem_occurrences.1 ht
  exact w.mem_eachMinute.2 ⟨hfloor, hcontains⟩

theorem length_occurrences_le : (occurrences s w).length ≤ w.minutes := by
  rw [← w.length_eachMinute]
  exact (h.subperm_eachMinute w).length_le

/-- Occurrences that are as many as the minutes of the window leave none of them out. -/
theorem perm_eachMinute_iff :
    (occurrences s w).Perm w.eachMinute ↔ (occurrences s w).length = w.minutes := by
  rw [← w.length_eachMinute]
  exact ⟨List.Perm.length_eq, fun hlength =>
    (h.subperm_eachMinute w).perm_of_length_le (Nat.le_of_eq hlength.symm)⟩

theorem perm_eachMinute_iff_forall :
    (occurrences s w).Perm w.eachMinute ↔
      ∀ t : Moment, t.floor = t → w.earliest ≤ t → t ≤ w.latest → t ∈ occurrences s w := by
  constructor
  · intro hperm t hfloor hearliest hlatest
    exact hperm.mem_iff.2 (w.mem_eachMinute.2 ⟨hfloor, w.contains_iff.2 ⟨hearliest, hlatest⟩⟩)
  · intro hall
    have hsubset : w.eachMinute ⊆ occurrences s w := by
      intro t ht
      obtain ⟨hfloor, hcontains⟩ := w.mem_eachMinute.1 ht
      obtain ⟨hearliest, hlatest⟩ := w.contains_iff.1 hcontains
      exact hall t hfloor hearliest hlatest
    have hminutes : w.eachMinute.Subperm (occurrences s w) :=
      List.subperm_of_subset (w.pairwise_eachMinute.imp ne_of_lt) hsubset
    exact (h.subperm_eachMinute w).antisymm hminutes

end Distinct

end Schedule

/-- A schedule that lists no month, day, hour or minute twice has different occurrences, and no
more than the window has minutes. Its job is taken to fire every minute exactly if the occurrences
are all minutes from the earliest to the latest in some order, that is if it fires on each of
them. -/
theorem everyMinute_recognised_by_count (w : Window) (styles : StyleTable) (id : Nat)
    (s : Schedule) (h : s.Distinct) :
    (occurrences s w).Nodup ∧ (occurrences s w).length ≤ w.minutes ∧
      ((Job.build w (.ofWindow w styles) id s).cadence = .everyMinute ↔
        (occurrences s w).Perm w.eachMinute) ∧
      ((occurrences s w).Perm w.eachMinute ↔
        ∀ t : Moment, t.floor = t → w.earliest ≤ t → t ≤ w.latest → t ∈ occurrences s w) := by
  refine ⟨h.nodup_occurrences w, h.length_occurrences_le w, ?_, h.perm_eachMinute_iff_forall w⟩
  have hminutes : (CadenceCounts.ofWindow w).everyMinute = w.minutes := rfl
  have hpos := w.minutes_pos
  rw [Job.cadence_eq, Classifier.counts_ofWindow, CadenceCounts.classify_eq_everyMinute_iff,
    h.perm_eachMinute_iff w, hminutes]
  exact ⟨And.right, fun hlength => ⟨by omega, hlength⟩⟩

/-- Four minutes around a midnight, found in an order that is not that of time, by lists with
numbers that are no minutes, hours or days. -/
theorem everyMinute_recognised_in_disorder :
    ∃ (w : Window) (s : Schedule),
      Window.parse "2012-02-28 23:58" "2012-02-29 00:01" = .ok w ∧
        Schedule.parse "58,1,75,0,59 24,0,23 29,41,28 14,2 6,3,2 tick" = .ok s ∧
        s.Distinct ∧
        (occurrences s w).map Moment.minuteText =
          ["2012-02-29 00:01", "2012-02-29 00:00", "2012-02-28 23:58", "2012-02-28 23:59"] ∧
        (occurrences s w).Nodup ∧
        (Job.build w (.ofWindow w .builtin) 0 s).cadence = .everyMinute ∧
        (occurrences s w).Perm w.eachMinute := by
  let w : Window :=
    ⟨⟨⟨2012, 2, 28, by decide⟩, 23, 58, 0, 0, by decide⟩,
      ⟨⟨2012, 2, 29, by decide⟩, 0, 1, 0, 0, by decide⟩,
      _, _, rfl, rfl, by decide, by decide, by decide, rfl, rfl⟩
  let s : Schedule :=
    { minute := ⟨[58, 1, 75, 0, 59]⟩, hour := ⟨[24, 0, 23]⟩, day := ⟨[29, 41, 28]⟩,
      month := ⟨[14, 2]⟩, weekday := ⟨[6, 3, 2]⟩, command := "tick" }
  have hw : Window.parse "2012-02-28 23:58" "2012-02-29 00:01" = .ok w := by rfl
  have hs : Schedule.parse "58,1,75,0,59 24,0,23 29,41,28 14,2 6,3,2 tick" = .ok s := by rfl
  have htimes : (occurrences s w).map Moment.minuteText =
      ["2012-02-29 00:01", "2012-02-29 00:00", "2012-02-28 23:58", "2012-02-28 23:59"] := by
    decide
  have hlists : s.Distinct := ⟨by decide, by decide, by decide, by decide⟩
  have hcadence : (Job.build w (.ofWindow w .builtin) 0 s).cadence = .everyMinute := by decide
  obtain ⟨hnodup, -, hall, -⟩ := everyMinute_recognised_by_count w .builtin 0 s hlists
  exact ⟨w, s, hw, hs, hlists, htimes, hnodup, hcadence, hall.1 hcadence⟩

end Timetable
