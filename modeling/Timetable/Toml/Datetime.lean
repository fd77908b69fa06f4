import Timetable.Calendar.Date
import Timetable.Text.Reader
/-!
# Dates and times in TOML

A date, a time of day, both together, or both with the distance to universal time.

## Main definitions

- `Toml.Datetime` — a date or a time
- `Toml.Datetime.text` — its normal form
- `Toml.datetime` — reads one
-/

namespace Timetable.Toml

open Text Text.Reader

/-- A time of day. The second 60 stands for a leap second. -/
structure Clock where
  hour : Nat
  minute : Nat
  second : Nat
  nano : Nat
  deriving DecidableEq, Repr

/-- How far a clock is ahead of universal time. -/
inductive Offset where
  | zulu
  /-- So many minutes ahead, or behind if negative. -/
  | minutes (ahead : Int)
  deriving DecidableEq, Repr

inductive Datetime where
  | date (date : Date)
  | time (time : Clock)
  | dateTime (date : Date) (time : Clock) (offset : Option Offset)
  deriving DecidableEq, Repr

/-- The time as `HH:MM:SS`, with a fraction that does not end in a zero. -/
def Clock.text (t : Clock) : List Char :=
  let fraction := ((padded 9 t.nano).reverse.dropWhile (· = '0')).reverse
  padded 2 t.hour ++ ':' :: padded 2 t.minute ++ ':' :: padded 2 t.second ++
    if t.nano = 0 then [] else '.' :: fraction

/-- The offset as `Z`, or as a sign and `HH:MM`. -/
def Offset.text : Offset → List Char
  | zulu => ['Z']
  | minutes ahead =>
    (if ahead < 0 then '-' else '+') :: padded 2 (ahead.natAbs / 60) ++
      ':' :: padded 2 (ahead.natAbs % 60)

/-- The normal form: the letters `T` and `Z` are capitals. -/
def Datetime.text : Datetime → List Char
  | date d => d.text
  | time t => t.text
  | dateTime d t offset => d.text ++ 'T' :: t.text ++ ((offset.map Offset.text).getD [])

def fixedNumber (width : Nat) : Reader Nat := fun cs =>
  match numeral? (cs.take width) with
  | some n => if (cs.take width).length = width then some (n, cs.drop width) else none
  | none => none

/-- A number of two digits that is at most `greatest`. -/
def twoDigits (greatest : Nat) : Reader Nat := do
  let n ← fixedNumber 2
  if n ≤ greatest then pure n else failure

def fullDate : Reader Date := do
  let year ← fixedNumber 4
  literal "-"
  let month ← fixedNumber 2
  literal "-"
  let day ← fixedNumber 2
  match Date.of? year month day with
  | some d => pure d
  | none => failure

/-- A fraction of a second, in nanoseconds; later digits do not count. -/
def fraction : Reader Nat := do
  literal "."
  let ds ← run1 Char.isDigit
  pure (Nat.ofDigitChars 10 ((ds ++ List.replicate 9 '0').take 9) 0)

/-- A time as `HH:MM:SS` with an optional fraction. -/
def clock : Reader Clock := do
  let hour ← twoDigits 23
  literal ":"
  let minute ← twoDigits 59
  literal ":"
  let second ← twoDigits 60
  let nano ← optional fraction
  pure ⟨hour, minute, second, nano.getD 0⟩

/-- An offset as `Z`, or as a sign and `HH:MM`. -/
def offset : Reader Offset := do
  match ← char fun c => c = 'Z' || c = 'z' || c = '+' || c = '-' with
  | '+' => .minutes <$> distance
  | '-' => (fun n => .minutes (-n)) <$> distance
  | _ => pure .zulu
where
  distance : Reader Int := do
    let hours ← twoDigits 23
    literal ":"
    let minutes ← twoDigits 59
    pure ((hours * 60 + minutes : Nat) : Int)

def clockAfterDate : Reader (Clock × Option Offset) := do
  let _ ← char fun c => c = 'T' || c = 't' || c = ' '
  let time ← clock
  let offset ← optional offset
  pure (time, offset)

def datetime : Reader Datetime :=
  (do
    let date ← fullDate
    match ← optional clockAfterDate with
    | some (time, offset) => pure (.dateTime date time offset)
    | none => pure (.date date)) <|>
  Datetime.time <$> clock

end Timetable.Toml
