import Timetable.Occurrences
/-!
# Cadences

A job that fires on every minute of a window, or on every fifth one, is told by the number
of its occurrences alone.

## Main definitions

- `Cadence` — how the occurrences of a job are shown
- `CadenceCounts` — the numbers of occurrences that give a cadence away
- `CadenceCounts.ofWindow` — these numbers for a window
- `CadenceCounts.classify` — the cadence for a number of occurrences
-/

namespace Timetable

/-- How the occurrences of a job are shown. -/
inductive Cadence where
  | individual
  | everyMinute
  | everyFiveMinutes
  deriving DecidableEq, Repr

/-- How often a job fires in a window that fires every minute, or every five minutes. -/
structure CadenceCounts where
  everyMinute : Nat
  everyFiveMinutes : Nat
  deriving DecidableEq, Repr

namespace CadenceCounts

/-- The counts of a window. The five-minute marks are counted as any job's occurrences. -/
def ofWindow (w : Window) : CadenceCounts :=
  ⟨w.minutes, countOccurrences .everyFiveMinutes w⟩

/-- The cadence of a job with `count` occurrences. Every minute is tried first, and a job
that never fires has none of the two cadences. -/
def classify (counts : CadenceCounts) (count : Nat) : Cadence :=
  if count = 0 then .individual
  else if count = counts.everyMinute then .everyMinute
  else if count = counts.everyFiveMinutes then .everyFiveMinutes
  else .individual

end CadenceCounts

end Timetable
