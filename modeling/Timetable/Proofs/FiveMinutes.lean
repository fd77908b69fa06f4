import Mathlib
import Timetable.Proofs.JobEvents
import Timetable.Proofs.ScheduleLine
import Timetable.Proofs.Tokens
/-!
# Five-minute marks

The marks of a window are its minutes divisible by five. A schedule `*/5 * * * *` fires on each of
them once, so that the number which the classifier finds by going through the calendar is the
number of multiples of five between the numbers of the window's ends: hours and days are whole
numbers of five minutes, and the year 0 begins with a mark. It is less than the number of all
minutes unless the window is nothing but one mark. In every other window with a mark the two
cadences are therefore told apart.

## Main definitions

- `Window.IsMark` — the marks of a window
- `Window.IsOneMark` — a window that is nothing but one mark
- `Moment.origin` — the beginning of the year 0

## Main statements

- `countP_multiples` — multiples of five among numbers that follow each other
- `CadenceCounts.everyFiveMinutes_eq` — the number of marks
- `CadenceCounts.everyFiveMinutes_eq_everyMinute_iff` — windows in which all minutes are marks
- `everyFiveMinutes_accounts_for_window` — this number, and the cadence of the marks
-/

namespace Timetable

namespace Moment

/-! ## Minutes from the year 0 -/

/-- The beginning of the year 0. -/
def origin : Moment :=
  firstOf ⟨0, 1, 1, by decide⟩

theorem minuteNumber_nonneg {t : Moment} (hyear : 0 ≤ t.date.year) : 0 ≤ t.minuteNumber := by
  have horigin : origin.minuteNumber = 0 := rfl
  rw [← horigin, minuteNumber_le_iff]
  have hdigits : origin.inDigits = 1010000 := rfl
  have hmonth := t.date.month_pos
  have hday := t.date.day_pos
  rw [hdigits, inDigits, Date.inDigits]
  omega

/-- From the beginning of the year 0 a minute is reached in as many steps as its number says. -/
theorem exists_iterate_origin {t : Moment} (hfloor : t.floor = t) (hyear : 0 ≤ t.date.year) :
    ∃ n : Nat, next^[n] origin = t ∧ (n : Int) = t.minuteNumber := by
  obtain ⟨n, hn⟩ := Int.eq_ofNat_of_zero_le (minuteNumber_nonneg hyear)
  refine ⟨n, ?_, hn.symm⟩
  apply eq_of_minuteNumber_eq (floor_next_iterate rfl n) hfloor
  rw [minuteNumber_next_iterate, hn]
  exact Int.zero_add _

/-- Hours and days hold whole numbers of five minutes. -/
theorem five_dvd_minuteNumber_iff {t : Moment} : 5 ∣ t.minuteNumber ↔ 5 ∣ t.minute := by
  rw [minuteNumber]
  omega

end Moment

/-! ## Counting marks -/

/-- The multiples of five among `n` numbers that follow each other from `e` on. -/
theorem countP_multiples (e : Int) (n : Nat) :
    (((List.range n).countP fun i => 5 ∣ e + (i : Nat) : Nat) : Int) =
      (e + n + 4) / 5 - (e + 4) / 5 := by
  induction n with
  | zero => simp
  | succ n ih =>
    rw [List.range_succ, List.countP_append, List.countP_singleton, Nat.cast_add, ih]
    by_cases hmultiple : 5 ∣ e + (n : Nat)
    · rw [if_pos (decide_eq_true hmultiple)]
      omega
    · rw [if_neg (by simpa using hmultiple)]
      omega

namespace Window

variable (w : Window)

/-- The moment is a minute of the window that is divisible by five. -/
def IsMark (t : Moment) : Prop :=
  t.floor = t ∧ w.contains t = true ∧ 5 ∣ t.minute

/-- The window is nothing but one mark. -/
def IsOneMark : Prop :=
  w.earliest = w.latest ∧ 5 ∣ w.earliest.minute

theorem isOneMark_iff_minuteNumber :
    w.IsOneMark ↔
      w.earliest.minuteNumber = w.latest.minuteNumber ∧ 5 ∣ w.earliest.minuteNumber := by
  rw [IsOneMark, Moment.five_dvd_minuteNumber_iff]
  apply and_congr_left'
  constructor
  · intro hends
    rw [hends]
  · exact Moment.eq_of_minuteNumber_eq w.floor_earliest w.floor_latest

theorem countP_eachMinute :
    ((w.eachMinute.countP fun t => 5 ∣ t.minute : Nat) : Int) =
      w.latest.minuteNumber / 5 + 1 - (w.earliest.minuteNumber + 4) / 5 := by
  have hmarks : (w.eachMinute.countP fun t => 5 ∣ t.minute) =
      (w.eachMinute.map Moment.minuteNumber).countP (5 ∣ ·) := by
    rw [List.countP_map]
    apply List.countP_congr
    intro t _
    simp [Moment.five_dvd_minuteNumber_iff]
  have hnumbers := countP_multiples w.earliest.minuteNumber w.minutes
  have hminutes := w.minutes_eq
  rw [hmarks, w.map_minuteNumber_eachMinute, List.countP_map, Function.comp_def, hnumbers]
  omega

end Window

/-! ## Schedules of the marks -/

namespace Schedule

/-- Due on the marks, with a command. -/
def onMarks (command : String) : Schedule :=
  { everyFiveMinutes with command := command }

/-- A line that begins with the columns `*/5 * * * *` is due on the marks. -/
theorem parse_eq_onMarks {line : String}
    (h : (Text.words line.toList).take 5 =
      ["*/5".toList, "*".toList, "*".toList, "*".toList, "*".toList]) :
    ∃ command, parse line = .ok (onMarks command) := by
  rw [← Text.takeWords_fst] at h
  have htokens (command : String) :
      ofTokens "*/5" "*" "*" "*" "*" command = .ok (onMarks command) := rfl
  exact ⟨_, (parse_of_takeWords (Prod.ext h rfl)).trans (htokens _)⟩

variable (command : String) (w : Window)

theorem everyHour_onMarks : (onMarks command).EveryHour :=
  ⟨rfl, rfl, rfl, fun _ h => h⟩

theorem ascending_onMarks : (onMarks command).Ascending :=
  (everyHour_onMarks command).ascending (Column.minute.pairwise_every (by decide))

theorem mem_minute_onMarks {t : Moment} :
    t.minute ∈ (onMarks command).minute.values ↔ 5 ∣ t.minute := by
  have hminute := t.isTimeOfDay.2.1
  have hvalues : (onMarks command).minute.values = Column.minute.every 5 := rfl
  rw [hvalues, Column.every_eq_filter _ (by decide), List.mem_filter, List.Ico.mem,
    decide_eq_true_iff]
  simp only [Column.first, Column.last]
  omega

theorem mem_occurrences_onMarks {t : Moment} :
    t ∈ occurrences (onMarks command) w ↔ w.IsMark t := by
  rw [(everyHour_onMarks command).mem_occurrences_iff, mem_minute_onMarks]
  exact Iff.rfl

theorem occurrences_onMarks :
    occurrences (onMarks command) w = w.eachMinute.filter fun t => 5 ∣ t.minute := by
  rw [(everyHour_onMarks command).occurrences_eq (ascending_onMarks command).minute]
  apply List.filter_congr
  intro t _
  exact decide_eq_decide.2 (mem_minute_onMarks command)

end Schedule

/-! ## The number of marks -/

namespace CadenceCounts

variable (w : Window)

theorem length_occurrences_onMarks (command : String) :
    (occurrences (.onMarks command) w).length = (ofWindow w).everyFiveMinutes := by
  have hcount : (ofWindow w).everyFiveMinutes = countOccurrences (.onMarks "") w := rfl
  rw [hcount, countOccurrences_eq_length, Schedule.occurrences_onMarks,
    Schedule.occurrences_onMarks]

theorem everyFiveMinutes_pos_iff :
    0 < (ofWindow w).everyFiveMinutes ↔ ∃ t, w.IsMark t := by
  rw [← length_occurrences_onMarks w "", List.length_pos_iff_exists_mem]
  exact exists_congr fun t => Schedule.mem_occurrences_onMarks "" w

/-- The number of marks, found one by one, is the number of multiples of five from the number of
the earliest minute to that of the latest. -/
theorem everyFiveMinutes_eq :
    ((ofWindow w).everyFiveMinutes : Int) =
      w.latest.minuteNumber / 5 + 1 - (w.earliest.minuteNumber + 4) / 5 := by
  rw [← length_occurrences_onMarks w "", Schedule.occurrences_onMarks,
    ← List.countP_eq_length_filter, w.countP_eachMinute]

theorem everyMinute_eq :
    ((ofWindow w).everyMinute : Int) =
      w.latest.minuteNumber - w.earliest.minuteNumber + 1 :=
  w.minutes_eq

theorem everyFiveMinutes_le : (ofWindow w).everyFiveMinutes ≤ (ofWindow w).everyMinute := by
  have hmarks := everyFiveMinutes_eq w
  have hminutes := everyMinute_eq w
  have hends := w.minuteNumber_earliest_le
  omega

/-- Of two minutes that follow each other at most one is a mark. -/
theorem everyFiveMinutes_eq_everyMinute_iff :
    (ofWindow w).everyFiveMinutes = (ofWindow w).everyMinute ↔ w.IsOneMark := by
  have hmarks := everyFiveMinutes_eq w
  have hminutes := everyMinute_eq w
  have hends := w.minuteNumber_earliest_le
  rw [w.isOneMark_iff_minuteNumber]
  omega

end CadenceCounts

/-! ## The cadence of the marks -/

namespace Job

variable (w : Window) (styles : StyleTable) (id : Nat) (command : String)

theorem cadence_onMarks :
    (build w (.ofWindow w styles) id (.onMarks command)).cadence =
      (CadenceCounts.ofWindow w).classify (CadenceCounts.ofWindow w).everyFiveMinutes := by
  rw [cadence_eq, Classifier.counts_ofWindow, CadenceCounts.length_occurrences_onMarks]

variable {w}

theorem onMarks_of_no_mark (h : ¬∃ t, w.IsMark t) :
    (build w (.ofWindow w styles) id (.onMarks command)).cadence = .individual ∧
      (build w (.ofWindow w styles) id (.onMarks command)).events = [] := by
  have hzero : (CadenceCounts.ofWindow w).everyFiveMinutes = 0 := by
    rw [← CadenceCounts.everyFiveMinutes_pos_iff] at h
    omega
  constructor
  · rw [cadence_onMarks, hzero, CadenceCounts.classify_zero]
  · rw [events_eq_nil_iff, ← List.length_eq_zero_iff,
      CadenceCounts.length_occurrences_onMarks, hzero]

theorem onMarks_of_isOneMark (h : w.IsOneMark) :
    (build w (.ofWindow w styles) id (.onMarks command)).cadence = .everyMinute := by
  rw [cadence_onMarks, (CadenceCounts.everyFiveMinutes_eq_everyMinute_iff w).2 h]
  exact CadenceCounts.classify_minutes w

/-- The one event goes from the first mark to the last. -/
theorem onMarks_of_mark (hmark : ∃ t, w.IsMark t) (h : ¬w.IsOneMark) :
    (build w (.ofWindow w styles) id (.onMarks command)).cadence = .everyFiveMinutes ∧
      ∃ event first last,
        (build w (.ofWindow w styles) id (.onMarks command)).events = [event] ∧
          event.start = first ∧ event.finish = some last ∧
          IsLeast {t | w.IsMark t} first ∧ IsGreatest {t | w.IsMark t} last := by
  have hcadence :
      (build w (.ofWindow w styles) id (.onMarks command)).cadence = .everyFiveMinutes := by
    rw [cadence_onMarks, CadenceCounts.classify_eq_everyFiveMinutes_iff]
    refine ⟨(CadenceCounts.everyFiveMinutes_pos_iff w).2 hmark, ?_, rfl⟩
    exact fun hsame => h ((CadenceCounts.everyFiveMinutes_eq_everyMinute_iff w).1 hsame)
  have hrolled : (build w (.ofWindow w styles) id (.onMarks command)).isRolledUp = true := by
    rw [isRolledUp, hcadence]
    rfl
  obtain ⟨event, first, last, hevents, hstart, hfinish, hfirst, hlast⟩ :=
    exists_event_of_isRolledUp hrolled
  have hascending := (Schedule.ascending_onMarks command).nonDecreasing
  have hmarks : {t | t ∈ occurrences (.onMarks command) w} = {t | w.IsMark t} :=
    Set.ext fun t => Schedule.mem_occurrences_onMarks command w
  refine ⟨hcadence, event, first, last, hevents, hstart, hfinish, ?_, ?_⟩
  · rw [← hmarks]
    exact hascending.isLeast_head hfirst
  · rw [← hmarks]
    exact hascending.isGreatest_last hlast

end Job

/-- Let the ends of a window be reached from the beginning of the year 0 in `E` and in `L` minutes.
Then it has `⌊L / 5⌋ + 1 - ⌈E / 5⌉` five-minute marks. These are never more than its minutes, and as
many only if it is nothing but one mark. A job `*/5 * * * *` over a window without a mark has no
cadence and no events, over a single mark it is taken to fire every minute, and over any other
window it is shown as firing every five minutes, by one event from the first mark to the last. -/
theorem everyFiveMinutes_accounts_for_window (w : Window) :
    (∃ E L : Nat, Moment.next^[E] Moment.origin = w.earliest ∧
        Moment.next^[L] Moment.origin = w.latest ∧
        ((CadenceCounts.ofWindow w).everyFiveMinutes : Int) =
          ⌊(L : ℚ) / 5⌋ + 1 - ⌈(E : ℚ) / 5⌉) ∧
      (CadenceCounts.ofWindow w).everyFiveMinutes ≤ (CadenceCounts.ofWindow w).everyMinute ∧
      ((CadenceCounts.ofWindow w).everyFiveMinutes = (CadenceCounts.ofWindow w).everyMinute ↔
        w.IsOneMark) ∧
      ∀ line : String, (Text.words line.toList).take 5 =
          ["*/5".toList, "*".toList, "*".toList, "*".toList, "*".toList] →
        ∃ s : Schedule, Schedule.parse line = .ok s ∧ ∀ (styles : StyleTable) (id : Nat),
          ((¬∃ t, w.IsMark t) →
            (Job.build w (.ofWindow w styles) id s).cadence = .individual ∧
              (Job.build w (.ofWindow w styles) id s).events = []) ∧
          (w.IsOneMark → (Job.build w (.ofWindow w styles) id s).cadence = .everyMinute) ∧
          ((∃ t, w.IsMark t) → ¬w.IsOneMark →
            (Job.build w (.ofWindow w styles) id s).cadence = .everyFiveMinutes ∧
              ∃ event first last,
                (Job.build w (.ofWindow w styles) id s).events = [event] ∧
                  event.start = first ∧ event.finish = some last ∧
                  IsLeast {t | w.IsMark t} first ∧ IsGreatest {t | w.IsMark t} last) := by
  refine ⟨?_, CadenceCounts.everyFiveMinutes_le w,
    CadenceCounts.everyFiveMinutes_eq_everyMinute_iff w, ?_⟩
  · obtain ⟨E, hE, hearliest⟩ :=
      Moment.exists_iterate_origin w.floor_earliest w.fourDigitYear_earliest.1
    obtain ⟨L, hL, hlatest⟩ :=
      Moment.exists_iterate_origin w.floor_latest w.fourDigitYear_latest.1
    refine ⟨E, L, hE, hL, ?_⟩
    have hfloor := Rat.floor_natCast_div_natCast L 5
    have hceil := Rat.ceil_natCast_div_natCast E 5
    rw [Nat.cast_ofNat] at hfloor hceil
    rw [CadenceCounts.everyFiveMinutes_eq, ← hearliest, ← hlatest, hfloor, hceil]
    omega
  · intro line hline
    obtain ⟨command, hparse⟩ := Schedule.parse_eq_onMarks hline
    exact ⟨_, hparse, fun styles id => ⟨Job.onMarks_of_no_mark styles id command,
      Job.onMarks_of_isOneMark styles id command, Job.onMarks_of_mark styles id command⟩⟩

/-- Windows between two marks, on a mark, and over a leap day with ends that are no marks. -/
theorem everyFiveMinutes_accounts_over_leapDay :
    ∃ (between single several : Window) (s : Schedule),
      Window.parse "2011-10-11 00:01" "2011-10-11 00:04" = .ok between ∧
        Window.parse "2011-10-11 00:05" "2011-10-11 00:05" = .ok single ∧
        Window.parse "2000-02-28 23:58" "2000-03-01 00:04" = .ok several ∧
        Schedule.parse "\t*/5 * * *  * poll  queue " = .ok s ∧
        (¬∃ t, between.IsMark t) ∧
        (Job.build between (.ofWindow between .builtin) 0 s).cadence = .individual ∧
        (Job.build between (.ofWindow between .builtin) 0 s).events = [] ∧
        single.IsOneMark ∧
        (Job.build single (.ofWindow single .builtin) 0 s).cadence = .everyMinute ∧
        (∃ t, several.IsMark t) ∧ ¬several.IsOneMark ∧
        (Job.build several (.ofWindow several .builtin) 0 s).cadence = .everyFiveMinutes ∧
        ∃ event first last,
          (Job.build several (.ofWindow several .builtin) 0 s).events = [event] ∧
            event.start = first ∧ event.finish = some last ∧
            IsLeast {t | several.IsMark t} first ∧ IsGreatest {t | several.IsMark t} last := by
  let between : Window :=
    ⟨⟨⟨2011, 10, 11, by decide⟩, 0, 1, 0, 0, by decide⟩,
      ⟨⟨2011, 10, 11, by decide⟩, 0, 4, 0, 0, by decide⟩,
      _, _, rfl, rfl, by decide, by decide, by decide, rfl, rfl⟩
  let single : Window :=
    ⟨⟨⟨2011, 10, 11, by decide⟩, 0, 5, 0, 0, by decide⟩,
      ⟨⟨2011, 10, 11, by decide⟩, 0, 5, 0, 0, by decide⟩,
      _, _, rfl, rfl, by decide, by decide, by decide, rfl, rfl⟩
  let several : Window :=
    ⟨⟨⟨2000, 2, 28, by decide⟩, 23, 58, 0, 0, by decide⟩,
      ⟨⟨2000, 3, 1, by decide⟩, 0, 4, 0, 0, by decide⟩,
      _, _, rfl, rfl, by decide, by decide, by decide, rfl, rfl⟩
  have hbetween : Window.parse "2011-10-11 00:01" "2011-10-11 00:04" = .ok between := by rfl
  have hsingle : Window.parse "2011-10-11 00:05" "2011-10-11 00:05" = .ok single := by rfl
  have hseveral : Window.parse "2000-02-28 23:58" "2000-03-01 00:04" = .ok several := by rfl
  have hwords : (Text.words "\t*/5 * * *  * poll  queue ".toList).take 5 =
      ["*/5".toList, "*".toList, "*".toList, "*".toList, "*".toList] := by decide
  have hnomark : ¬∃ t, between.IsMark t := by
    rw [← CadenceCounts.everyFiveMinutes_pos_iff]
    decide
  have hsinglemark : single.IsOneMark := ⟨rfl, by decide⟩
  have hmark : ∃ t, several.IsMark t :=
    ⟨⟨⟨2000, 2, 29, by decide⟩, 23, 55, 0, 0, by decide⟩, rfl, by decide, by decide⟩
  have hseveralmarks : ¬several.IsOneMark := by
    rintro ⟨hends, -⟩
    cases hends
  obtain ⟨-, -, -, hbetweenlines⟩ := everyFiveMinutes_accounts_for_window between
  obtain ⟨-, -, -, hsinglelines⟩ := everyFiveMinutes_accounts_for_window single
  obtain ⟨-, -, -, hseverallines⟩ := everyFiveMinutes_accounts_for_window several
  obtain ⟨s, hs, hjobbetween⟩ := hbetweenlines _ hwords
  obtain ⟨s', hs', hjobsingle⟩ := hsinglelines _ hwords
  obtain ⟨s'', hs'', hjobseveral⟩ := hseverallines _ hwords
  obtain rfl : s = s' := Except.ok.inj (hs.symm.trans hs')
  obtain rfl : s = s'' := Except.ok.inj (hs.symm.trans hs'')
  obtain ⟨hcadence, hevents⟩ := (hjobbetween .builtin 0).1 hnomark
  obtain ⟨hcadence', hevent⟩ := (hjobseveral .builtin 0).2.2 hmark hseveralmarks
  have hcadence'' := (hjobsingle .builtin 0).2.1 hsinglemark
  exact ⟨between, single, several, s, hbetween, hsingle, hseveral, hs, hnomark, hcadence, hevents,
    hsinglemark, hcadence'', hmark, hseveralmarks, hcadence', hevent⟩

end Timetable
