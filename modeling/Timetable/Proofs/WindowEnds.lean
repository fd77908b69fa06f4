import Mathlib
import Timetable.Proofs.Minutes
/-!
# Windows between any two readings

A window is made of the minutes in which its two readings lie. Their seconds, leap seconds at any
place among them, change neither the window nor the error: a reading may come after the other as
long as both lie in one minute. There is one window at most between two minutes, and its number of
minutes is the number of those that it contains.

## Main definitions

- `Reading.floor` — a reading without its second and nanoseconds
- `Window.Spans` — what a window between two readings is

## Main statements

- `Window.new_cases` — the order of the minutes is asked first, then the one year and the other
- `Window.new_eq_ok_iff` — the window between two readings
- `Window.ncard_minutes` — the minutes of a window are counted right
- `windows_between_readings` — all of this for any two readings
-/

namespace Timetable

attribute [ext] Window

namespace Reading

variable (r : Reading)

/-- The beginning of the minute of a reading, with nothing for the second and the nanoseconds. -/
def floor : Moment :=
  ⟨r.date, r.hour, r.minute, 0, 0, r.inRange.1, r.inRange.2.1, by decide, .inl (by decide)⟩

/-- Setting one part after the other never fails, also where a leap second is left in between at
the beginning of a minute. -/
theorem toMinute_eq_floor : r.toMinute = r.floor :=
  rfl

end Reading

/-- A moment and its reading have the same minute. -/
theorem Moment.floor_reading (t : Moment) : t.reading.floor = t.floor :=
  rfl

namespace Window

/-! ## One window at most -/

/-- The keys follow from the ends. -/
theorem eq_of_ends {v w : Window} (hearliest : v.earliest = w.earliest)
    (hlatest : v.latest = w.latest) : v = w := by
  apply Window.ext hearliest hlatest
  · rw [v.earliestKey_eq, w.earliestKey_eq, hearliest]
  · rw [v.latestKey_eq, w.latestKey_eq, hlatest]

variable {e l : Reading} {first last : Moment} {w : Window} {year : Int}

/-- The order of the ends is asked first, then the year of the earliest one and then that of the
latest one. -/
theorem new_cases (e l : Reading) :
    (l.floor < e.floor ∧ new e l = .error (.reversedWindow e.floor l.floor)) ∨
      (e.floor ≤ l.floor ∧ ¬IsFourDigitYear e.date.year ∧
        new e l = .error (.yearOutOfRange e.date.year)) ∨
      (e.floor ≤ l.floor ∧ IsFourDigitYear e.date.year ∧ ¬IsFourDigitYear l.date.year ∧
        new e l = .error (.yearOutOfRange l.date.year)) ∨
      (e.floor ≤ l.floor ∧ IsFourDigitYear e.date.year ∧ IsFourDigitYear l.date.year ∧
        ∃ w, new e l = .ok w ∧ w.earliest = e.floor ∧ w.latest = l.floor) := by
  by_cases horder : e.floor ≤ l.floor
  · right
    by_cases hearliest : IsFourDigitYear e.date.year
    · right
      by_cases hlatest : IsFourDigitYear l.date.year
      · exact .inr ⟨horder, hearliest, hlatest, _,
          (dif_pos horder).trans ((dif_pos hearliest).trans (dif_pos hlatest)), rfl, rfl⟩
      · exact .inl ⟨horder, hearliest, hlatest,
          (dif_pos horder).trans ((dif_pos hearliest).trans (dif_neg hlatest))⟩
    · exact .inl ⟨horder, hearliest, (dif_pos horder).trans (dif_neg hearliest)⟩
  · exact .inl ⟨not_le.1 horder, dif_neg horder⟩

/-- Every window has ends that may be the ends of a window, so that nothing else is asked of it. -/
theorem new_eq_ok_iff : new e l = .ok w ↔ w.earliest = e.floor ∧ w.latest = l.floor := by
  -- Where the two readings have no window, `w` itself contradicts that they are its ends.
  rcases new_cases e l with ⟨horder, hnew⟩ | ⟨-, hyear, hnew⟩ | ⟨-, -, hyear, hnew⟩ |
    ⟨-, -, -, v, hnew, hearliest, hlatest⟩ <;> rw [hnew]
  · refine ⟨nofun, fun ⟨hearliest, hlatest⟩ => absurd w.earliest_le_latest ?_⟩
    rwa [hearliest, hlatest, not_le]
  · refine ⟨nofun, fun ⟨hearliest, _⟩ => absurd w.fourDigitYear_earliest ?_⟩
    rwa [hearliest]
  · refine ⟨nofun, fun ⟨_, hlatest⟩ => absurd w.fourDigitYear_latest ?_⟩
    rwa [hlatest]
  · constructor
    · intro h
      obtain rfl : v = w := Except.ok.inj h
      exact ⟨hearliest, hlatest⟩
    · rintro ⟨hwearliest, hwlatest⟩
      rw [eq_of_ends (hearliest.trans hwearliest.symm) (hlatest.trans hwlatest.symm)]

/-- A window is the one between its ends. -/
theorem new_ends (w : Window) : new w.earliest w.latest = .ok w :=
  new_eq_ok_iff.2 ⟨w.floor_earliest.symm, w.floor_latest.symm⟩

theorem exists_new_iff :
    (∃ w, new e l = .ok w) ↔
      e.floor ≤ l.floor ∧ IsFourDigitYear e.date.year ∧ IsFourDigitYear l.date.year := by
  rcases new_cases e l with ⟨horder, hnew⟩ | ⟨-, hyear, hnew⟩ | ⟨-, -, hyear, hnew⟩ |
    ⟨horder, hearliest, hlatest, v, hnew, -⟩ <;> rw [hnew]
  · exact ⟨nofun, fun h => absurd h.1 (not_le.2 horder)⟩
  · exact ⟨nofun, fun h => absurd h.2.1 hyear⟩
  · exact ⟨nofun, fun h => absurd h.2.2 hyear⟩
  · exact ⟨fun _ => ⟨horder, hearliest, hlatest⟩, fun _ => ⟨_, rfl⟩⟩

theorem new_eq_reversedWindow_iff :
    new e l = .error (.reversedWindow first last) ↔
      l.floor < e.floor ∧ first = e.floor ∧ last = l.floor := by
  rcases new_cases e l with ⟨horder, hnew⟩ | ⟨horder, -, hnew⟩ | ⟨horder, -, -, hnew⟩ |
    ⟨horder, -, -, v, hnew, -⟩ <;> rw [hnew]
  · simp only [Except.error.injEq, Error.reversedWindow.injEq, horder, true_and, eq_comm]
  all_goals exact ⟨nofun, fun h => absurd horder (not_le.2 h.1)⟩

/-- The year that is told is the first one of the two that does not have four digits. -/
theorem new_eq_yearOutOfRange_iff :
    new e l = .error (.yearOutOfRange year) ↔
      e.floor ≤ l.floor ∧
        [e.date.year, l.date.year].find? (fun y => ¬IsFourDigitYear y) = some year := by
  rcases new_cases e l with ⟨horder, hnew⟩ | ⟨horder, hearliest, hnew⟩ |
    ⟨horder, hearliest, hlatest, hnew⟩ | ⟨horder, hearliest, hlatest, v, hnew, -⟩ <;> rw [hnew]
  · exact ⟨nofun, fun h => absurd h.1 (not_le.2 horder)⟩
  · simp [horder, hearliest]
  · simp [horder, hearliest, hlatest]
  · simp [hearliest, hlatest]

/-! ## The minutes of a window -/

/-- The number of minutes is the number of beginnings of minutes that the window contains. -/
theorem ncard_minutes (w : Window) :
    {t : Moment | t.second = 0 ∧ t.nano = 0 ∧ w.contains t = true}.ncard = w.minutes := by
  have hminutes : {t : Moment | t.second = 0 ∧ t.nano = 0 ∧ w.contains t = true} =
      (w.eachMinute.toFinset : Set Moment) := by
    ext t
    rw [Set.mem_ofPred_eq, SetLike.mem_coe, List.mem_toFinset, w.mem_eachMinute,
      Moment.floor_eq_iff, and_assoc]
  rw [hminutes, Set.ncard_coe_finset,
    List.toFinset_card_of_nodup (w.pairwise_eachMinute.imp ne_of_lt), w.length_eachMinute]

/-- The window `w` is the one between two readings: its ends are the beginnings of their minutes, in
the years that are written with four digits and in order, its keys are those of its ends, and the
difference of its ends, which is not negative, gives the number of its minutes. -/
structure Spans (w : Window) (e l : Reading) : Prop where
  earliest : w.earliest = e.floor
  latest : w.latest = l.floor
  earliest_second : w.earliest.second = 0 ∧ w.earliest.nano = 0
  latest_second : w.latest.second = 0 ∧ w.latest.nano = 0
  earliest_year : 0 ≤ w.earliest.date.year ∧ w.earliest.date.year ≤ 9999
  latest_year : 0 ≤ w.latest.date.year ∧ w.latest.date.year ≤ 9999
  order : w.earliest ≤ w.latest
  earliestKey : w.earliestKey = w.earliest.key
  latestKey : w.latestKey = w.latest.key
  difference : 0 ≤ w.latest.minuteNumber - w.earliest.minuteNumber
  minutes : (w.minutes : Int) = w.latest.minuteNumber - w.earliest.minuteNumber + 1
  one_le_minutes : 1 ≤ w.minutes
  count : {t : Moment | t.second = 0 ∧ t.nano = 0 ∧ w.contains t = true}.ncard = w.minutes

theorem spans_of_new (h : new e l = .ok w) : w.Spans e l := by
  obtain ⟨hearliest, hlatest⟩ := new_eq_ok_iff.1 h
  exact
    { earliest := hearliest
      latest := hlatest
      earliest_second := Moment.floor_eq_iff.1 w.floor_earliest
      latest_second := Moment.floor_eq_iff.1 w.floor_latest
      earliest_year := w.fourDigitYear_earliest
      latest_year := w.fourDigitYear_latest
      order := w.earliest_le_latest
      earliestKey := w.earliestKey_eq
      latestKey := w.latestKey_eq
      difference := Int.sub_nonneg_of_le w.minuteNumber_earliest_le
      minutes := w.minutes_eq
      one_le_minutes := w.minutes_pos
      count := w.ncard_minutes }

end Window

/-- For any two readings, of any year and also within leap seconds, the seconds do not count. If the
earliest minute comes after the latest one the window is reversed, whatever the years are. Else the
first year that does not have four digits is told, if there is one. In all other cases there is a
window, it has the minutes of the two readings as its ends, and it counts the minutes between them
right. -/
theorem windows_between_readings (e l : Reading) :
    Window.new e l = Window.new e.floor l.floor ∧
      (∀ first last, Window.new e l = .error (.reversedWindow first last) ↔
        l.floor < e.floor ∧ first = e.floor ∧ last = l.floor) ∧
      (∀ year, Window.new e l = .error (.yearOutOfRange year) ↔
        e.floor ≤ l.floor ∧
          [e.date.year, l.date.year].find? (fun y => ¬(0 ≤ y ∧ y ≤ 9999)) = some year) ∧
      ((∃ w, Window.new e l = .ok w) ↔
        e.floor ≤ l.floor ∧ (0 ≤ e.date.year ∧ e.date.year ≤ 9999) ∧
          0 ≤ l.date.year ∧ l.date.year ≤ 9999) ∧
      ∀ w, Window.new e l = .ok w → w.Spans e l := by
  exact ⟨rfl, fun first last => Window.new_eq_reversedWindow_iff,
    fun year => Window.new_eq_yearOutOfRange_iff, Window.exists_new_iff,
    fun w => Window.spans_of_new⟩

/-- From the leap second at the end of a minute to one that follows an earlier second of it. -/
theorem windows_between_readings_leap_seconds :
    ∃ (e : Moment) (l : Reading) (w : Window),
      e.isoText = "2016-12-31T23:59:60.500" ∧ l.toMinute.isoText = "2016-12-31T23:59:00" ∧
        l.second = 10 ∧ l.nano = 1500000000 ∧ Window.new e l = .ok w ∧
        w.text = "2016-12-31 23:59..2016-12-31 23:59" ∧ w.Spans e l := by
  let e : Moment := ⟨⟨2016, 12, 31, by decide⟩, 23, 59, 59, 1500000000, by decide⟩
  let l : Reading := ⟨⟨2016, 12, 31, by decide⟩, 23, 59, 10, 1500000000, by decide⟩
  let w : Window :=
    ⟨e.floor, l.floor, _, _, rfl, rfl, by decide, by decide, by decide, rfl, rfl⟩
  have hw : Window.new e l = .ok w := Window.new_eq_ok_iff.2 ⟨rfl, rfl⟩
  obtain ⟨-, -, -, -, hspans⟩ := windows_between_readings e l
  exact ⟨e, l, w, by decide, by decide, rfl, rfl, hw, by decide, hspans w hw⟩

end Timetable
