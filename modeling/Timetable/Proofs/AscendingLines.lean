import Mathlib
import Timetable.Proofs.Chronology
import Timetable.Proofs.SkippedLines
/-!
# Lines in the order of time

Of the forms of a token only the list can name its values out of order or twice, and only a list
holds a comma. A line without a comma in its first four columns therefore has a schedule that
fires in the order of time and never twice at once, whatever the weekdays are.

## Main statements

- `Field.Denotes.pairwise_values` — the values of a token without a comma ascend
- `Schedule.denotes_of_parse` — the first words of a line are the tokens of its schedule
- `Schedule.ascending_of_parse` — lines without commas have ascending schedules
- `occurrences_in_order_of_time` — ascending schedules, and lines without commas
-/

namespace Timetable

/-- One value, or values that are counted upwards: every form but the list ascends. -/
theorem Field.Denotes.pairwise_values {c : Column} {cs : List Char} {values : List Nat}
    (h : Denotes c cs values) (hcomma : ',' ∉ cs) : values.Pairwise (· < ·) := by
  cases h with
  | number hn => exact List.pairwise_singleton _ _
  | list htwo hparts => exact absurd (mem_intercalate htwo ',') hcomma
  | range hfirst hlast hspan => exact List.Ico.pairwise_lt _ _
  | all => exact List.Ico.pairwise_lt _ _
  | step hn hpos => exact (List.Ico.pairwise_lt _ _).filter _

namespace Schedule

variable {line : String} {s : Schedule}

/-- The first five words of a line with a schedule are the tokens of its columns. -/
theorem denotes_of_parse (h : parse line = .ok s) :
    ∃ minute hour day month weekday,
      (Text.words line.toList).take 5 = [minute, hour, day, month, weekday] ∧
        Field.Denotes .minute minute s.minute.values ∧ Field.Denotes .hour hour s.hour.values ∧
        Field.Denotes .day day s.day.values ∧ Field.Denotes .month month s.month.values ∧
        Field.Denotes .weekday weekday s.weekday.values := by
  obtain ⟨minute, hour, day, month, weekday, rest, htake, htokens⟩ := exists_takeWords_of_parse h
  obtain ⟨hminute, hhour, hday, hmonth, hweekday, -⟩ := ofTokens_eq_ok_iff.1 htokens
  have hwords := Text.takeWords_fst 5 line.toList
  rw [htake] at hwords
  refine ⟨minute, hour, day, month, weekday, hwords.symm, ?_, ?_, ?_, ?_, ?_⟩
  · simpa using Field.denotes_of_parse hminute
  · simpa using Field.denotes_of_parse hhour
  · simpa using Field.denotes_of_parse hday
  · simpa using Field.denotes_of_parse hmonth
  · simpa using Field.denotes_of_parse hweekday

/-- A line without a comma in its first four columns lists everything in ascending order. -/
theorem ascending_of_parse (h : parse line = .ok s)
    (hcommas : ∀ word ∈ (Text.words line.toList).take 4, ',' ∉ word) : s.Ascending := by
  obtain ⟨minute, hour, day, month, weekday, hfive, hminute, hhour, hday, hmonth, -⟩ :=
    denotes_of_parse h
  have hfour : (Text.words line.toList).take 4 = [minute, hour, day, month] := by
    have htake := congrArg (List.take 4) hfive
    rwa [List.take_take] at htake
  rw [hfour] at hcommas
  exact
    { month := hmonth.pairwise_values (hcommas month (by simp))
      day := hday.pairwise_values (hcommas day (by simp))
      hour := hhour.pairwise_values (hcommas hour (by simp))
      minute := hminute.pairwise_values (hcommas minute (by simp)) }

theorem Ascending.nodup_occurrences (h : s.Ascending) (w : Window) : (occurrences s w).Nodup :=
  (h.pairwise_occurrences w).imp ne_of_lt

end Schedule

/-- A schedule whose months, days, hours and minutes ascend strictly fires in the strict order of
time, whatever its weekdays are. Each line that has a schedule and no comma in its first four
words has such a one, so that it never fires twice at once either. -/
theorem occurrences_in_order_of_time (w : Window) :
    (∀ s : Schedule, s.Ascending → (occurrences s w).Pairwise (· < ·)) ∧
      ∀ (line : String) (s : Schedule), Schedule.parse line = .ok s →
        (∀ word ∈ (Text.words line.toList).take 4, ',' ∉ word) →
          s.Ascending ∧ (occurrences s w).Pairwise (· < ·) ∧ (occurrences s w).Nodup := by
  refine ⟨fun s h => h.pairwise_occurrences w, ?_⟩
  intro line s hparse hcommas
  have h := Schedule.ascending_of_parse hparse hcommas
  exact ⟨h, h.pairwise_occurrences w, h.nodup_occurrences w⟩

/-- Ranges and wildcards over the end of a year and a leap day, with weekdays in disorder. -/
theorem occurrences_in_order_of_time_leap_day :
    ∃ (w : Window) (s : Schedule),
      Window.parse "1999-12-30 12:00" "2000-03-01 23:59" = .ok w ∧
        Schedule.parse "*/31 23 28-31 * 2,1,5,2,0 report" = .ok s ∧
        (∀ word ∈ (Text.words "*/31 23 28-31 * 2,1,5,2,0 report".toList).take 4, ',' ∉ word) ∧
        (occurrences s w).map Moment.minuteText =
          ["1999-12-31 23:00", "1999-12-31 23:31", "2000-01-28 23:00", "2000-01-28 23:31",
            "2000-01-30 23:00", "2000-01-30 23:31", "2000-01-31 23:00", "2000-01-31 23:31",
            "2000-02-28 23:00", "2000-02-28 23:31", "2000-02-29 23:00", "2000-02-29 23:31"] ∧
        s.Ascending ∧ (occurrences s w).Pairwise (· < ·) ∧ (occurrences s w).Nodup := by
  let w : Window :=
    ⟨⟨⟨1999, 12, 30, by decide⟩, 12, 0, 0, 0, by decide⟩,
      ⟨⟨2000, 3, 1, by decide⟩, 23, 59, 0, 0, by decide⟩,
      _, _, rfl, rfl, by decide, by decide, by decide, rfl, rfl⟩
  let s : Schedule :=
    { minute := ⟨[0, 31]⟩, hour := ⟨[23]⟩, day := ⟨[28, 29, 30, 31]⟩, month := .full .month,
      weekday := ⟨[2, 1, 5, 2, 0]⟩, command := "report" }
  have hw : Window.parse "1999-12-30 12:00" "2000-03-01 23:59" = .ok w := by rfl
  have hs : Schedule.parse "*/31 23 28-31 * 2,1,5,2,0 report" = .ok s := by rfl
  have hcommas : ∀ word ∈ (Text.words "*/31 23 28-31 * 2,1,5,2,0 report".toList).take 4,
      ',' ∉ word := by decide
  have htimes : (occurrences s w).map Moment.minuteText =
      ["1999-12-31 23:00", "1999-12-31 23:31", "2000-01-28 23:00", "2000-01-28 23:31",
        "2000-01-30 23:00", "2000-01-30 23:31", "2000-01-31 23:00", "2000-01-31 23:31",
        "2000-02-28 23:00", "2000-02-28 23:31", "2000-02-29 23:00", "2000-02-29 23:31"] := by
    decide
  obtain ⟨-, hlines⟩ := occurrences_in_order_of_time w
  exact ⟨w, s, hw, hs, hcommas, htimes, hlines _ s hs hcommas⟩

end Timetable
