import Mathlib
import Timetable.Job
import Timetable.Proofs.Chronology
/-!
# Jobs that fire every minute

A schedule that is due on every day and in every hour fires on those minutes of a window that its
minute column lists. One that lists everything therefore fires on each minute of the window once,
from the earliest to the latest. So the number of minutes that the classifier takes from the ends
of the window is the number of occurrences of such a schedule, and its job is shown as one event
over the whole window.

## Main definitions

- `Schedule.EveryHour` — every column but the minute lists its whole domain
- `Schedule.Unrestricted` — every column lists its whole domain

## Main statements

- `Schedule.EveryHour.occurrences_eq` — the occurrences are the minutes that are listed
- `Schedule.Unrestricted.occurrences_eq` — the occurrences are the minutes of the window
- `everyMinute_accounts_for_window` — these occurrences, their number and the job's one event
-/

namespace Timetable

namespace Schedule

/-- Every column but the minute lists its whole domain. The weekdays may be listed in any order and
more than once, also with other numbers among them. -/
structure EveryHour (s : Schedule) : Prop where
  month : s.month.values = Column.month.domain
  day : s.day.values = Column.day.domain
  hour : s.hour.values = Column.hour.domain
  weekday : ∀ value ∈ Column.weekday.domain, value ∈ s.weekday.values

namespace EveryHour

variable {s : Schedule} (h : s.EveryHour)

include h

theorem ascending (hminute : s.minute.values.Pairwise (· < ·)) : s.Ascending where
  month := h.month ▸ Column.month.pairwise_domain
  day := h.day ▸ Column.day.pairwise_domain
  hour := h.hour ▸ Column.hour.pairwise_domain
  minute := hminute

theorem mem_occurrences_iff {w : Window} {t : Moment} :
    t ∈ occurrences s w ↔
      t.floor = t ∧ w.contains t = true ∧ t.minute ∈ s.minute.values := by
  rw [mem_occurrences]
  constructor
  · rintro ⟨hfloor, hcontains, -, -, -, hminute, -⟩
    exact ⟨hfloor, hcontains, hminute⟩
  · rintro ⟨hfloor, hcontains, hminute⟩
    have hmonth : t.date.month ∈ s.month.values := h.month ▸ t.date.month_mem_domain
    have hday : t.date.day ∈ s.day.values := h.day ▸ t.date.day_mem_domain
    have hhour : t.hour ∈ s.hour.values := by
      rw [h.hour, Column.mem_domain]
      exact ⟨Nat.zero_le _, Nat.le_of_lt_succ t.isTimeOfDay.1⟩
    have hweekday : t.date.weekday ∈ s.weekday.values := h.weekday _ t.date.weekday_mem_domain
    exact ⟨hfloor, hcontains, hmonth, hday, hhour, hminute, hweekday⟩

/-- The occurrences are the minutes of the window that the minute column lists. Both ascend
strictly and have the same members. -/
theorem occurrences_eq (hminute : s.minute.values.Pairwise (· < ·)) (w : Window) :
    occurrences s w = w.eachMinute.filter fun t => t.minute ∈ s.minute.values := by
  apply List.Pairwise.eq_of_mem_iff ((h.ascending hminute).pairwise_occurrences w)
  · exact w.pairwise_eachMinute.filter _
  · intro t
    rw [h.mem_occurrences_iff, List.mem_filter, w.mem_eachMinute, decide_eq_true_iff, and_assoc]

end EveryHour

/-- Every column lists its whole domain. The weekdays may be listed in any order and more than
once, also with other numbers among them. -/
structure Unrestricted (s : Schedule) : Prop where
  month : s.month.values = Column.month.domain
  day : s.day.values = Column.day.domain
  hour : s.hour.values = Column.hour.domain
  minute : s.minute.values = Column.minute.domain
  weekday : ∀ value ∈ Column.weekday.domain, value ∈ s.weekday.values

theorem unrestricted_everyMinute : everyMinute.Unrestricted :=
  ⟨rfl, rfl, rfl, rfl, fun _ h => h⟩

namespace Unrestricted

variable {s : Schedule} (h : s.Unrestricted)

include h

theorem everyHour : s.EveryHour :=
  ⟨h.month, h.day, h.hour, h.weekday⟩

/-- The occurrences are the minutes of the window, since none of them is unlisted. -/
theorem occurrences_eq (w : Window) : occurrences s w = w.eachMinute := by
  have hminute : s.minute.values.Pairwise (· < ·) := h.minute ▸ Column.minute.pairwise_domain
  rw [h.everyHour.occurrences_eq hminute, List.filter_eq_self]
  intro t _
  rw [decide_eq_true_iff, h.minute, Column.mem_domain]
  exact ⟨Nat.zero_le _, Nat.le_of_lt_succ t.isTimeOfDay.2.1⟩

end Unrestricted

end Schedule

/-! ## Cadence and event -/

/-- As many occurrences as the window has minutes are every minute, also where the five-minute
marks are as many. -/
theorem CadenceCounts.classify_minutes (w : Window) :
    (CadenceCounts.ofWindow w).classify w.minutes = .everyMinute := by
  have hpos := w.minutes_pos
  rw [classify, if_neg (by omega)]
  exact if_pos rfl

theorem Classifier.events_eq_whole {c : Classifier} {cadence : Cadence} {style : Style}
    (command : String) {times : List Moment} {first last : Moment}
    (hstyle : c.styles.ofCadence cadence = some style) (hfirst : times.head? = some first)
    (hlast : times.getLast? = some last) :
    c.events cadence command times = [c.wholeEvent style command first last] := by
  simp only [events, hstyle, hfirst, hlast]

/-- An unrestricted job over the classifier's window is shown as a whole. -/
theorem Job.build_of_unrestricted (w : Window) (styles : StyleTable) (id : Nat) {s : Schedule}
    (h : s.Unrestricted) :
    Job.build w (.ofWindow w styles) id s =
      { id := id
        schedule := s
        times := w.eachMinute
        cadence := .everyMinute
        events := [(Classifier.ofWindow w styles).wholeEvent styles.everyMinute s.command
          w.earliest w.latest] } := by
  have hcadence : (CadenceCounts.ofWindow w).classify w.eachMinute.length = .everyMinute := by
    rw [w.length_eachMinute, CadenceCounts.classify_minutes]
  have hevents : (Classifier.ofWindow w styles).events .everyMinute s.command w.eachMinute =
      [(Classifier.ofWindow w styles).wholeEvent styles.everyMinute s.command
        w.earliest w.latest] :=
    Classifier.events_eq_whole s.command rfl w.head?_eachMinute w.getLast?_eachMinute
  rw [build, h.occurrences_eq]
  simp only [Classifier.ofWindow] at hevents ⊢
  rw [hcadence, hevents]

/-- Over any window `* * * * *` fires on the minutes from the earliest to the latest, each one
once and in order and the next one minute later, so as often as the window counts minutes. The
job of every unrestricted schedule is recognised by that count and shown as one event from end
to end. -/
theorem everyMinute_accounts_for_window (w : Window) :
    Schedule.parse "* * * * *" = .ok .everyMinute ∧
      occurrences .everyMinute w = w.eachMinute ∧
      (occurrences .everyMinute w).Pairwise (· < ·) ∧
      (occurrences .everyMinute w).head? = some w.earliest ∧
      (occurrences .everyMinute w).getLast? = some w.latest ∧
      (occurrences .everyMinute w).map Moment.minuteNumber =
        ((List.range w.minutes).map fun n => w.earliest.minuteNumber + (n : Nat)) ∧
      (occurrences .everyMinute w).length = w.minutes ∧
      ∀ s : Schedule, s.Unrestricted → ∀ (styles : StyleTable) (id : Nat),
        (Job.build w (.ofWindow w styles) id s).times = w.eachMinute ∧
          (Job.build w (.ofWindow w styles) id s).cadence = .everyMinute ∧
          ∃ event : Event, (Job.build w (.ofWindow w styles) id s).events = [event] ∧
            event.start = w.earliest ∧ event.finish = some w.latest := by
  have hminutes := Schedule.unrestricted_everyMinute.occurrences_eq w
  rw [hminutes]
  refine ⟨by cbv, rfl, w.pairwise_eachMinute, w.head?_eachMinute, w.getLast?_eachMinute,
    w.map_minuteNumber_eachMinute, w.length_eachMinute, ?_⟩
  intro s hs styles id
  rw [Job.build_of_unrestricted w styles id hs]
  exact ⟨rfl, rfl, _, rfl, rfl, rfl⟩

/-- Over the end of a February with a leap day, and with the weekdays listed backwards. -/
theorem everyMinute_accounts_over_leapDay :
    ∃ (w : Window) (s : Schedule),
      Window.parse "2000-02-28 23:58" "2000-03-01 00:01" = .ok w ∧
        Schedule.parse "* * * * 6,5,4,3,2,1,0,9 tick" = .ok s ∧ s.Unrestricted ∧
        w.minutes = 1444 ∧
        (Job.build w (.ofWindow w .builtin) 7 s).times = w.eachMinute ∧
        (Job.build w (.ofWindow w .builtin) 7 s).cadence = .everyMinute ∧
        ∃ event : Event, (Job.build w (.ofWindow w .builtin) 7 s).events = [event] ∧
          event.start = w.earliest ∧ event.finish = some w.latest := by
  let s : Schedule :=
    { Schedule.everyMinute with weekday := ⟨[6, 5, 4, 3, 2, 1, 0, 9]⟩, command := "tick" }
  have hs : s.Unrestricted := ⟨rfl, rfl, rfl, rfl, by decide⟩
  have hparse : Schedule.parse "* * * * 6,5,4,3,2,1,0,9 tick" = .ok s := by cbv
  have hminutes : (Window.parse "2000-02-28 23:58" "2000-03-01 00:01").map Window.minutes =
      .ok 1444 := by cbv
  cases hw : Window.parse "2000-02-28 23:58" "2000-03-01 00:01" with
  | error error =>
    rw [hw] at hminutes
    cases hminutes
  | ok w =>
    rw [hw] at hminutes
    obtain ⟨-, -, -, -, -, -, -, hjob⟩ := everyMinute_accounts_for_window w
    exact ⟨w, s, rfl, hparse, hs, Except.ok.inj hminutes, hjob s hs .builtin 7⟩

end Timetable
