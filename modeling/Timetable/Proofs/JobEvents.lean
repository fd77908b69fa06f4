import Mathlib
import Timetable.Proofs.EveryMinute
import Timetable.Proofs.Extremes
/-!
# The events of a job

A job shows each of its occurrences by an event of its own, or all of them by one event from the
first to the last. The second way is only taken by jobs that fire at all, since a number of
occurrences gives a cadence away only if it is not zero. If the lists of the schedule do not
descend, that one event covers all occurrences exactly.

## Main statements

- `CadenceCounts.classify_eq_everyMinute_iff`, `CadenceCounts.classify_eq_everyFiveMinutes_iff` —
  the numbers of occurrences that have a cadence
- `Classifier.exists_events_eq_whole` — occurrences with a cadence have one event
- `Job.exists_event_of_isRolledUp` — the event of a job with a cadence
- `events_account_for_occurrences` — the events of any job
-/

namespace Timetable

namespace CadenceCounts

variable {counts : CadenceCounts} {count : Nat}

/-! ## Numbers with a cadence -/

theorem classify_zero (counts : CadenceCounts) : counts.classify 0 = .individual := rfl

theorem classify_eq_everyMinute_iff :
    counts.classify count = .everyMinute ↔ 0 < count ∧ count = counts.everyMinute := by
  grind [classify]

/-- A number that is both is taken for that of the minutes. -/
theorem classify_eq_everyFiveMinutes_iff :
    counts.classify count = .everyFiveMinutes ↔
      0 < count ∧ count ≠ counts.everyMinute ∧ count = counts.everyFiveMinutes := by
  grind [classify]

end CadenceCounts

namespace Classifier

theorem counts_ofWindow (w : Window) (styles : StyleTable) :
    (ofWindow w styles).counts = .ofWindow w := rfl

variable (c : Classifier) (command : String)

/-! ## Events of occurrences -/

theorem events_individual (times : List Moment) :
    c.events .individual command times = c.individualEvents command times := rfl

theorem events_nil (cadence : Cadence) : c.events cadence command [] = [] := by
  cases cadence <;> rfl

/-- Occurrences with a cadence are shown by one event, from the first to the last of them. -/
theorem exists_events_eq_whole {cadence : Cadence} (hcadence : cadence ≠ .individual)
    {times : List Moment} (htimes : times ≠ []) :
    ∃ style first last, c.styles.ofCadence cadence = some style ∧ times.head? = some first ∧
      times.getLast? = some last ∧
      c.events cadence command times = [c.wholeEvent style command first last] := by
  have hfirst := List.head?_eq_some_head htimes
  have hlast := List.getLast?_eq_some_getLast htimes
  cases cadence with
  | individual => exact absurd rfl hcadence
  | everyMinute => exact ⟨_, _, _, rfl, hfirst, hlast, events_eq_whole command rfl hfirst hlast⟩
  | everyFiveMinutes =>
    exact ⟨_, _, _, rfl, hfirst, hlast, events_eq_whole command rfl hfirst hlast⟩

/-- An event is one of those of single occurrences, or the one of all occurrences. -/
theorem individual_or_whole_of_mem_events {cadence : Cadence} {times : List Moment} {e : Event}
    (h : e ∈ c.events cadence command times) :
    cadence = .individual ∧ e ∈ c.individualEvents command times ∨
      ∃ style first last, c.styles.ofCadence cadence = some style ∧ times.head? = some first ∧
        times.getLast? = some last ∧ e = c.wholeEvent style command first last := by
  by_cases hcadence : cadence = .individual
  · rw [hcadence, events_individual] at h
    exact .inl ⟨hcadence, h⟩
  · have htimes : times ≠ [] := by
      rintro rfl
      rw [events_nil] at h
      exact absurd h List.not_mem_nil
    obtain ⟨style, first, last, hstyle, hfirst, hlast, hevents⟩ :=
      c.exists_events_eq_whole command hcadence htimes
    rw [hevents, List.mem_singleton] at h
    exact .inr ⟨style, first, last, hstyle, hfirst, hlast, h⟩

/-- An event without an end is that of one occurrence. -/
theorem individual_of_finish_eq_none {cadence : Cadence} {times : List Moment} {e : Event}
    (h : e ∈ c.events cadence command times) (hfinish : e.finish = none) :
    e.start ∈ times ∧ e.title = String.ofList e.start.clockText ++ " " ++ command ∧
      e.description = command := by
  obtain ⟨-, he⟩ | ⟨style, first, last, -, -, -, rfl⟩ :=
    c.individual_or_whole_of_mem_events command h
  · obtain ⟨t, ht, rfl⟩ := List.mem_map.1 he
    exact ⟨ht, rfl, rfl⟩
  · cases hfinish

/-- An event for each occurrence, in their order, without an end. -/
theorem forall₂_individualEvents (times : List Moment) :
    List.Forall₂ (fun e t => e.start = t ∧ e.finish = none)
      (c.individualEvents command times) times := by
  rw [individualEvents, List.forall₂_map_left_iff, List.forall₂_same]
  exact fun t _ => ⟨rfl, rfl⟩

end Classifier

namespace Job

variable {w : Window} {c : Classifier} {id : Nat} {s : Schedule}

/-! ## Events of jobs -/

theorem cadence_eq :
    (build w c id s).cadence = c.counts.classify (occurrences s w).length := rfl

theorem events_eq :
    (build w c id s).events =
      c.events (build w c id s).cadence s.command (occurrences s w) := rfl

theorem events_of_individual (h : (build w c id s).cadence = .individual) :
    (build w c id s).events = c.individualEvents s.command (occurrences s w) := by
  rw [events_eq, h, c.events_individual]

/-- A job with a cadence fires at all. -/
theorem occurrences_ne_nil (h : (build w c id s).cadence ≠ .individual) :
    occurrences s w ≠ [] := by
  intro hnil
  apply h
  rw [cadence_eq, hnil, List.length_nil, c.counts.classify_zero]

/-- A job with a cadence has one event, from its first to its last occurrence. -/
theorem exists_event_of_isRolledUp (h : (build w c id s).isRolledUp = true) :
    ∃ event first last, (build w c id s).events = [event] ∧ event.start = first ∧
      event.finish = some last ∧ (occurrences s w).head? = some first ∧
      (occurrences s w).getLast? = some last := by
  have hcadence : (build w c id s).cadence ≠ .individual := of_decide_eq_true h
  obtain ⟨style, first, last, -, hfirst, hlast, hevents⟩ :=
    c.exists_events_eq_whole s.command hcadence (occurrences_ne_nil hcadence)
  rw [events_eq, hevents]
  exact ⟨_, first, last, rfl, rfl, rfl, hfirst, hlast⟩

theorem events_eq_nil_iff : (build w c id s).events = [] ↔ occurrences s w = [] := by
  by_cases h : (build w c id s).cadence = .individual
  · rw [events_of_individual h, Classifier.individualEvents, List.map_eq_nil_iff]
  · obtain ⟨event, -, -, hevents, -⟩ := exists_event_of_isRolledUp (decide_eq_true h)
    simp [hevents, occurrences_ne_nil h]

end Job

/-- A job has no events exactly if it never fires in its window. Without a cadence it has an event
for each occurrence, in the same order, which starts there and has no end. With a cadence it has
one event from the first to the last occurrence, and if its months, days, hours and minutes do not
descend, these are the earliest and the latest one, in whatever order the others are. -/
theorem events_account_for_occurrences (w : Window) (styles : StyleTable) (id : Nat)
    (s : Schedule) :
    let job := Job.build w (.ofWindow w styles) id s
    job.times = occurrences s w ∧
      (job.events = [] ↔ job.times = []) ∧
      (job.isRolledUp = false →
        List.Forall₂ (fun e t => e.start = t ∧ e.finish = none) job.events job.times) ∧
      (job.isRolledUp = true →
        ∃ event first last, job.events = [event] ∧ event.start = first ∧
          event.finish = some last ∧ job.times.head? = some first ∧
          job.times.getLast? = some last ∧
          (s.NonDecreasing →
            (∀ t ∈ job.times, first ≤ t ∧ t ≤ last) ∧
              IsLeast {t | t ∈ job.times} first ∧ IsGreatest {t | t ∈ job.times} last ∧
              w.earliest ≤ first ∧ first ≤ last ∧ last ≤ w.latest)) := by
  intro job
  refine ⟨rfl, Job.events_eq_nil_iff, ?_, ?_⟩
  · intro hrolled
    have hcadence : job.cadence = .individual := by
      simpa [Job.isRolledUp] using hrolled
    have hevents : job.events = (Classifier.ofWindow w styles).individualEvents s.command
        (occurrences s w) := Job.events_of_individual hcadence
    rw [hevents]
    exact Classifier.forall₂_individualEvents _ _ _
  · intro hrolled
    obtain ⟨event, first, last, hevents, hstart, hfinish, hfirst, hlast⟩ :=
      Job.exists_event_of_isRolledUp hrolled
    refine ⟨event, first, last, hevents, hstart, hfinish, hfirst, hlast, ?_⟩
    intro h
    have hleast := h.isLeast_head hfirst
    have hgreatest := h.isGreatest_last hlast
    have hearliest := w.contains_iff.1 (mem_occurrences.1 hleast.1).2.1
    have hlatest := w.contains_iff.1 (mem_occurrences.1 hgreatest.1).2.1
    exact ⟨fun t ht => ⟨hleast.2 ht, hgreatest.2 ht⟩, hleast, hgreatest, hearliest.1,
      hleast.2 hgreatest.1, hlatest.2⟩

/-- Two days that are the same one, so that the occurrences go back in time between them. They are
as many as the window has minutes, although they are not its minutes. Each of them is shown by
itself if the day is listed once. -/
theorem events_account_for_repeated_day :
    ∃ (w : Window) (s s' : Schedule),
      Window.parse "2011-10-11 00:00" "2011-10-11 00:03" = .ok w ∧
        Schedule.parse "0,2 0 11,11 10 * twice" = .ok s ∧
        Schedule.parse "0,2 0 11 10 * once" = .ok s' ∧
        (occurrences s w).map Moment.minuteText =
          ["2011-10-11 00:00", "2011-10-11 00:02", "2011-10-11 00:00", "2011-10-11 00:02"] ∧
        s.NonDecreasing ∧
        (Job.build w (.ofWindow w .builtin) 0 s).isRolledUp = true ∧
        (∃ event first last,
          (Job.build w (.ofWindow w .builtin) 0 s).events = [event] ∧ event.start = first ∧
            event.finish = some last ∧ IsLeast {t | t ∈ occurrences s w} first ∧
            IsGreatest {t | t ∈ occurrences s w} last ∧ w.earliest ≤ first ∧ first ≤ last ∧
            last ≤ w.latest) ∧
        (Job.build w (.ofWindow w .builtin) 1 s').isRolledUp = false ∧
        List.Forall₂ (fun e t => e.start = t ∧ e.finish = none)
          (Job.build w (.ofWindow w .builtin) 1 s').events (occurrences s' w) := by
  let w : Window :=
    ⟨⟨⟨2011, 10, 11, by decide⟩, 0, 0, 0, 0, by decide⟩,
      ⟨⟨2011, 10, 11, by decide⟩, 0, 3, 0, 0, by decide⟩,
      _, _, rfl, rfl, by decide, by decide, by decide, rfl, rfl⟩
  let s : Schedule :=
    { minute := ⟨[0, 2]⟩, hour := ⟨[0]⟩, day := ⟨[11, 11]⟩, month := ⟨[10]⟩,
      weekday := .full .weekday, command := "twice" }
  let s' : Schedule := { s with day := ⟨[11]⟩, command := "once" }
  have hw : Window.parse "2011-10-11 00:00" "2011-10-11 00:03" = .ok w := by rfl
  have hs : Schedule.parse "0,2 0 11,11 10 * twice" = .ok s := by rfl
  have hs' : Schedule.parse "0,2 0 11 10 * once" = .ok s' := by rfl
  have htimes : (occurrences s w).map Moment.minuteText =
      ["2011-10-11 00:00", "2011-10-11 00:02", "2011-10-11 00:00", "2011-10-11 00:02"] := by
    decide
  have hlists : s.NonDecreasing := ⟨by decide, by decide, by decide, by decide⟩
  have hrolled : (Job.build w (.ofWindow w .builtin) 0 s).isRolledUp = true := by decide
  have hrolled' : (Job.build w (.ofWindow w .builtin) 1 s').isRolledUp = false := by decide
  obtain ⟨-, -, -, hwhole⟩ := events_account_for_occurrences w .builtin 0 s
  obtain ⟨-, -, hindividual, -⟩ := events_account_for_occurrences w .builtin 1 s'
  obtain ⟨event, first, last, hevents, hstart, hfinish, -, -, hextremes⟩ := hwhole hrolled
  obtain ⟨-, hleast, hgreatest, hbounds⟩ := hextremes hlists
  exact ⟨w, s, s', hw, hs, hs', htimes, hlists, hrolled,
    ⟨event, first, last, hevents, hstart, hfinish, hleast, hgreatest, hbounds⟩, hrolled',
    hindividual hrolled'⟩

end Timetable
