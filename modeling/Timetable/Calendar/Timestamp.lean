import Timetable.Calendar.Moment
import Timetable.Text.Blank
/-!
# Timestamps

A timestamp names a minute as `YYYY-MM-DD HH:MM`. Each number may have blanks before it and
lack leading zeros, and a year may have a sign, with which it may have any number of digits.

## Main definitions

- `Timestamp.Fault` — why a text is no timestamp
- `Timestamp.read` — the moment that a text names, or the first fault in it
-/

namespace Timetable.Timestamp

/-- What is wrong with a text that should be a timestamp. -/
inductive Fault where
  /-- It ends before the timestamp is complete. -/
  | premature
  /-- It has another character where a digit or a separator is needed. -/
  | invalid
  /-- It goes on after the minute. -/
  | trailing
  /-- It has a number that is too large or too small, or names a day that does not exist. -/
  | outOfRange
  deriving DecidableEq, Repr

def Fault.text : Fault → String
  | premature => "premature end of input"
  | invalid => "input contains invalid characters"
  | trailing => "trailing input"
  | outOfRange => "input is out of range"

def firstYear : Int := -262143

def lastYear : Int := 262142

def maxNumber : Nat := 9223372036854775807

/-- The greatest year that is read; the least one is one below its negative. -/
def maxYear : Int := 2147483647

/-- The date with these numbers, if it exists and lies in the years of timestamps. -/
def date? (year : Int) (month day : Nat) : Option Date :=
  if firstYear ≤ year ∧ year ≤ lastYear then Date.of? year month day else none

/-- The run of digits in front of a text, no longer than `limit` if there is one, as a
number, and the text after it. -/
def number (limit : Option Nat) : List Char → Except Fault (Nat × List Char)
  | [] => .error .premature
  | text@(c :: _) =>
    if c.isDigit then
      let run := ((limit.map text.take).getD text).takeWhile Char.isDigit
      let value := Nat.ofDigitChars 10 run 0
      if value ≤ maxNumber then .ok (value, text.drop run.length) else .error .outOfRange
    else .error .invalid

def separator (c : Char) : List Char → Except Fault (List Char)
  | [] => .error .premature
  | d :: text => if d = c then .ok text else .error .invalid

/-- A year: a sign and any number of digits, or up to four digits. -/
def year (text : List Char) : Except Fault (Int × List Char) := do
  let (value, rest) ←
    match Text.trimStart text with
    | '-' :: text => do
      let (n, rest) ← number none text
      pure (-(n : Int), rest)
    | '+' :: text => do
      let (n, rest) ← number none text
      pure ((n : Int), rest)
    | text => do
      let (n, rest) ← number (some 4) text
      pure ((n : Int), rest)
  if -maxYear - 1 ≤ value ∧ value ≤ maxYear then .ok (value, rest) else .error .outOfRange

/-- A number of at most two digits that lies between `least` and `greatest`. -/
def part (least greatest : Nat) (text : List Char) : Except Fault (Nat × List Char) := do
  let (n, rest) ← number (some 2) (Text.trimStart text)
  if least ≤ n ∧ n ≤ greatest then .ok (n, rest) else .error .outOfRange

/-- The moment that a text names. Of several faults the one met first counts; whether the
day exists is asked last. -/
def read (value : String) : Except Fault Moment := do
  let (y, rest) ← year (Text.trim value.toList)
  let rest ← separator '-' rest
  let (mo, rest) ← part 1 12 rest
  let rest ← separator '-' rest
  let (d, rest) ← part 1 31 rest
  let (h, rest) ← part 0 23 rest
  let rest ← separator ':' rest
  let (mi, rest) ← part 0 59 rest
  if rest ≠ [] then .error .trailing
  else
    match (date? y mo d).bind (Moment.ofMinute? · h mi) with
    | some t => .ok t
    | none => .error .outOfRange

end Timetable.Timestamp
