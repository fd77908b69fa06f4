import Timetable.Calendar.Moment
/-!
# Readings

A reading is a date and a time of day whose parts are set one at a time. Every second of it may
be a leap second, also one that no minute ends with, as it is when a leap second has been set to
another number.

## Main definitions

- `Reading` — a date and the parts of a time of day
- `Reading.withSecond?`, `Reading.withNano?` — one part set to a number
- `Reading.truncate` — the seconds and their fraction set to nothing
- `Reading.toMinute` — the moment at the beginning of the minute
-/

namespace Timetable

structure Reading where
  date : Date
  hour : Nat
  minute : Nat
  second : Nat
  nano : Nat
  inRange : hour < 24 ∧ minute < 60 ∧ second < 60 ∧ nano < 2000000000
  deriving DecidableEq, Repr

def Moment.reading (t : Moment) : Reading :=
  ⟨t.date, t.hour, t.minute, t.second, t.nano, by
    obtain ⟨hhour, hminute, hsecond, hnano⟩ := t.isTimeOfDay
    omega⟩

instance : Coe Moment Reading := ⟨Moment.reading⟩

namespace Reading

variable (r : Reading)

def withSecond? (second : Nat) : Option Reading :=
  if h : second < 60 then
    some ⟨r.date, r.hour, r.minute, second, r.nano, r.inRange.1, r.inRange.2.1, h, r.inRange.2.2.2⟩
  else none

def withNano? (nano : Nat) : Option Reading :=
  if h : nano < 2000000000 then
    some ⟨r.date, r.hour, r.minute, r.second, nano, r.inRange.1, r.inRange.2.1, r.inRange.2.2.1, h⟩
  else none

/-- First the second is set to 0, then the nanoseconds. A reading in which one of them cannot be
set stays as it is. -/
def truncate : Reading :=
  ((r.withSecond? 0).bind fun r => r.withNano? 0).getD r

/-- Both of them can be set. -/
theorem truncate_eq :
    r.truncate = ⟨r.date, r.hour, r.minute, 0, 0, r.inRange.1, r.inRange.2.1, by decide⟩ :=
  rfl

/-- The moment at the beginning of the minute. -/
def toMinute : Moment :=
  ⟨r.truncate.date, r.truncate.hour, r.truncate.minute, r.truncate.second, r.truncate.nano, by
    simp only [truncate_eq]
    exact ⟨r.inRange.1, r.inRange.2.1, by decide, .inl (by decide)⟩⟩

end Reading

end Timetable
