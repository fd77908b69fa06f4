import Timetable.Calendar.Date
/-!
# Moments

A moment is a date with a time of day down to the nanosecond, without a time zone. The
last second of a minute may be a leap second, which the nanoseconds from a thousand
million on belong to.

## Main definitions

- `Moment` — a date and a time of day
- `Moment.firstOf`, `Moment.lastOf` — the minutes in which a day begins and ends
- `Moment.floor` — the beginning of the minute
- `Moment.rank` — a number that orders the moments; `a ≤ b` compares ranks
- `Moment.minuteNumber` — minutes since the year 0 began
- `Moment.isoText`, `Moment.spacedText`, `Moment.minuteText` — written forms
-/

namespace Timetable

/-- The numbers of a time of day. A nanosecond from 10⁹ on lies in a leap second. -/
def IsTimeOfDay (hour minute second nano : Nat) : Prop :=
  hour < 24 ∧ minute < 60 ∧ second < 60 ∧
    (nano < 1000000000 ∨ second = 59 ∧ nano < 2000000000)

instance (hour minute second nano : Nat) : Decidable (IsTimeOfDay hour minute second nano) :=
  inferInstanceAs (Decidable (_ ∧ _))

structure Moment where
  date : Date
  hour : Nat
  minute : Nat
  second : Nat
  nano : Nat
  isTimeOfDay : IsTimeOfDay hour minute second nano
  deriving DecidableEq, Repr

namespace Moment

/-- The moment of a day with these numbers, if they are a time of day. -/
def of? (date : Date) (hour minute second nano : Nat) : Option Moment :=
  if h : IsTimeOfDay hour minute second nano then some ⟨date, hour, minute, second, nano, h⟩
  else none

def ofMinute? (date : Date) (hour minute : Nat) : Option Moment :=
  of? date hour minute 0 0

def firstOf (date : Date) : Moment :=
  ⟨date, 0, 0, 0, 0, by decide⟩

/-- The beginning of the last minute of a day. -/
def lastOf (date : Date) : Moment :=
  ⟨date, 23, 59, 0, 0, by decide⟩

def floor (t : Moment) : Moment :=
  ⟨t.date, t.hour, t.minute, 0, 0,
    ⟨t.isTimeOfDay.1, t.isTimeOfDay.2.1, by decide, .inl (by decide)⟩⟩

/-- Minutes from the beginning of the year 0 to the moment's minute. -/
def minuteNumber (t : Moment) : Int :=
  t.date.dayNumber * 1440 + (t.hour * 60 + t.minute : Nat)

/-- The position of a moment in time: seconds since the year 0 began, two thousand million
to each so that leap seconds have room, plus the nanoseconds. -/
def rank (t : Moment) : Int :=
  (t.minuteNumber * 60 + t.second) * 2000000000 + t.nano

instance : LE Moment := ⟨fun a b => a.rank ≤ b.rank⟩

instance : LT Moment := ⟨fun a b => a.rank < b.rank⟩

instance (a b : Moment) : Decidable (a ≤ b) := inferInstanceAs (Decidable (a.rank ≤ b.rank))

instance (a b : Moment) : Decidable (a < b) := inferInstanceAs (Decidable (a.rank < b.rank))

def clockText (t : Moment) : List Char :=
  Text.padded 2 t.hour ++ ':' :: Text.padded 2 t.minute

/-- A fraction of a second, with three, six or nine digits as it needs them, or nothing. -/
def fractionText (nano : Nat) : List Char :=
  if nano = 0 then []
  else if nano % 1000000 = 0 then '.' :: Text.padded 3 (nano / 1000000)
  else if nano % 1000 = 0 then '.' :: Text.padded 6 (nano / 1000)
  else '.' :: Text.padded 9 nano

/-- The time of day as `HH:MM:SS` and a fraction. A leap second is the second 60. -/
def timeText (t : Moment) : List Char :=
  let leap := t.nano / 1000000000
  t.clockText ++ ':' :: Text.padded 2 (t.second + leap) ++
    fractionText (t.nano - leap * 1000000000)

/-- The moment as `YYYY-MM-DDTHH:MM:SS`. -/
def isoText (t : Moment) : String :=
  String.ofList (t.date.text ++ 'T' :: t.timeText)

/-- The moment as `YYYY-MM-DD HH:MM:SS`. -/
def spacedText (t : Moment) : String :=
  String.ofList (t.date.text ++ ' ' :: t.timeText)

def minuteChars (t : Moment) : List Char :=
  t.date.text ++ ' ' :: t.clockText

/-- The moment's minute as `YYYY-MM-DD HH:MM`. -/
def minuteText (t : Moment) : String :=
  String.ofList t.minuteChars

end Moment

end Timetable
