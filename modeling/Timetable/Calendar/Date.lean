import Timetable.Text.Numeral
/-!
# Dates

Dates of the proleptic Gregorian calendar, in which the leap year rule holds for all years,
those before the year 1 included.

## Main definitions

- `isLeap`, `daysIn` — the calendar's rules
- `Date` — a year, a month and a day that exists in them
- `Date.dayNumber` — days since 1 January of the year 0
- `Date.weekday` — 0 for Sunday up to 6 for Saturday
-/

namespace Timetable

namespace Calendar

/-- Every fourth year is a leap year, but of the full centuries only every fourth one. -/
def isLeap (year : Int) : Bool :=
  (year % 4 == 0 && year % 100 != 0) || year % 400 == 0

/-- The number of days of a month; none for a number that is no month. -/
def daysIn (year : Int) (month : Nat) : Nat :=
  match month with
  | 1 | 3 | 5 | 7 | 8 | 10 | 12 => 31
  | 4 | 6 | 9 | 11 => 30
  | 2 => if isLeap year then 29 else 28
  | _ => 0

/-- Days from 1 January of the year 0 to 1 January of `year`, negative for earlier years:
365 for each year and one for each leap year between them. -/
def daysBeforeYear (year : Int) : Int :=
  365 * year + (year + 3) / 4 - (year + 99) / 100 + (year + 399) / 400

/-- Days from 1 January to the first day of the month. -/
def daysBeforeMonth (year : Int) (month : Nat) : Nat :=
  (List.range' 1 (month - 1)).foldl (fun days earlier => days + daysIn year earlier) 0

/-- A year as it is written in dates: four digits from 0 to 9999, and a sign and at least
four digits otherwise. -/
def yearText (year : Int) : List Char :=
  if 0 ≤ year ∧ year ≤ 9999 then Text.padded 4 year.toNat
  else (if year < 0 then '-' else '+') :: Text.padded 4 year.natAbs

end Calendar

open Calendar

structure Date where
  year : Int
  month : Nat
  day : Nat
  exists_day : 1 ≤ day ∧ day ≤ daysIn year month
  deriving DecidableEq, Repr

namespace Date

/-- The date with these numbers, if the calendar has it. -/
def of? (year : Int) (month day : Nat) : Option Date :=
  if h : 1 ≤ day ∧ day ≤ daysIn year month then some ⟨year, month, day, h⟩ else none

/-- Days since 1 January of the year 0, negative before it. -/
def dayNumber (d : Date) : Int :=
  daysBeforeYear d.year + daysBeforeMonth d.year d.month + (d.day - 1 : Nat)

/-- The day of the week, from 0 for Sunday to 6 for Saturday. The year 0 begins with a
Saturday. -/
def weekday (d : Date) : Nat :=
  ((d.dayNumber + 6) % 7).toNat

def text (d : Date) : List Char :=
  yearText d.year ++ '-' :: Text.padded 2 d.month ++ '-' :: Text.padded 2 d.day

end Date

end Timetable
