import Timetable.Calendar.Reading
import Timetable.Calendar.StampKey
import Timetable.Error
/-!
# Windows

A window is a span of whole minutes within the years 0 to 9999, both ends included. It keeps
the stamp keys of its ends, against which candidates are compared before they are known to
exist.

## Main definitions

- `Window` — two ordered minutes and their keys
- `Window.new`, `Window.parse` — a window from two readings or from two timestamps
- `Window.contains`, `Window.minutes`, `Window.years` — what lies in a window
- `Window.admitsDay`, `Window.admits` — the comparisons of keys
- `Window.text` — a window in writing
-/

namespace Timetable

/-- The years that are written with four digits. -/
def IsFourDigitYear (year : Int) : Prop :=
  0 ≤ year ∧ year ≤ 9999

instance (year : Int) : Decidable (IsFourDigitYear year) :=
  inferInstanceAs (Decidable (_ ∧ _))

structure Window where
  earliest : Moment
  latest : Moment
  earliestKey : StampKey
  latestKey : StampKey
  floor_earliest : earliest.floor = earliest
  floor_latest : latest.floor = latest
  earliest_le_latest : earliest ≤ latest
  fourDigitYear_earliest : IsFourDigitYear earliest.date.year
  fourDigitYear_latest : IsFourDigitYear latest.date.year
  earliestKey_eq : earliestKey = earliest.key := by rfl
  latestKey_eq : latestKey = latest.key := by rfl
  deriving DecidableEq

namespace Window

/-- The window from the minute of one reading to the minute of another. The order of the ends
is checked before their years. -/
def new (earliest latest : Reading) : Except Error Window :=
  let first := earliest.toMinute
  let last := latest.toMinute
  if order : first ≤ last then
    if firstYear : IsFourDigitYear first.date.year then
      if lastYear : IsFourDigitYear last.date.year then
        .ok ⟨first, last, first.key, last.key, rfl, rfl, order, firstYear, lastYear, rfl, rfl⟩
      else .error (.yearOutOfRange last.date.year)
    else .error (.yearOutOfRange first.date.year)
  else .error (.reversedWindow first last)

def parseTimestamp (value : String) : Except Error Moment :=
  (Timestamp.read value).mapError (Error.invalidTimestamp value)

def parse (earliest latest : String) : Except Error Window := do
  let first ← parseTimestamp earliest
  let last ← parseTimestamp latest
  new first last

variable (w : Window)

def years : List Int :=
  (List.range (w.latest.date.year - w.earliest.date.year + 1).toNat).map
    fun n => w.earliest.date.year + (n : Nat)

/-- The number of whole minutes in the window. -/
def minutes : Nat :=
  (w.latest.minuteNumber - w.earliest.minuteNumber).toNat + 1

def contains (t : Moment) : Bool :=
  w.earliest ≤ t ∧ t ≤ w.latest

/-- Whether the day in a key lies between the days of the ends. -/
def admitsDay (key : StampKey) : Bool :=
  StampKey.le w.earliestKey.day key.day && StampKey.le key.day w.latestKey.day

/-- Whether a key lies between the keys of the ends. -/
def admits (key : StampKey) : Bool :=
  StampKey.le w.earliestKey key && StampKey.le key w.latestKey

/-- The two ends with two dots between them. -/
def text : String :=
  w.earliest.minuteText ++ ".." ++ w.latest.minuteText

end Window

end Timetable
