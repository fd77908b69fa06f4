import Timetable.Error
import Timetable.Field.Token
import Timetable.Text.Blank
/-!
# Schedules

A schedule says when a command is due. It is written on a line as five columns, separated
by blanks, and the command, which is all that follows them.

## Main definitions

- `Schedule` — the five fields and the command
- `Schedule.ofTokens` — a schedule from its five column tokens
- `Schedule.parse` — a schedule from a line
- `Schedule.render` — a line that shows the values of each field as a list
- `isScheduleLine` — the lines that are meant to hold a schedule
-/

namespace Timetable

def Field.parse (c : Column) (token : String) : Except Error (Field c) :=
  match Field.values? c token.toList with
  | some values => .ok ⟨values⟩
  | none => .error (.invalidToken c token)

structure Schedule where
  minute : Field .minute
  hour : Field .hour
  day : Field .day
  month : Field .month
  weekday : Field .weekday
  command : String
  deriving DecidableEq, Repr

namespace Schedule

/-- The schedule with these column tokens. The leftmost token that its column does not
understand is the error. -/
def ofTokens (minute hour day month weekday command : String) : Except Error Schedule := do
  let minute ← Field.parse .minute minute
  let hour ← Field.parse .hour hour
  let day ← Field.parse .day day
  let month ← Field.parse .month month
  let weekday ← Field.parse .weekday weekday
  .ok ⟨minute, hour, day, month, weekday, command⟩

/-- The schedule on a line. The command may be empty; blanks around it do not count. -/
def parse (line : String) : Except Error Schedule :=
  match Text.takeWords 5 line.toList with
  | ([minute, hour, day, month, weekday], rest) =>
    ofTokens (String.ofList minute) (String.ofList hour) (String.ofList day)
      (String.ofList month) (String.ofList weekday) (String.ofList (Text.trim rest))
  | (tokens, _) => .error (.missingFields tokens.length line)

/-- Due every five minutes, on the minutes divisible by five. -/
def everyFiveMinutes : Schedule :=
  ⟨.every .minute 5, .full .hour, .full .day, .full .month, .full .weekday, ""⟩

def everyMinute : Schedule :=
  ⟨.full .minute, .full .hour, .full .day, .full .month, .full .weekday, ""⟩

def renderField {c : Column} (f : Field c) : List Char :=
  List.intercalate [','] (f.values.map Text.digits)

/-- A line for the schedule in which each field is a list of its values. -/
def render (s : Schedule) : String :=
  String.ofList (List.intercalate [' ']
    [renderField s.minute, renderField s.hour, renderField s.day, renderField s.month,
      renderField s.weekday, s.command.toList])

end Schedule

/-- Whether a line is meant to hold a schedule: its first character that is not blank is a
digit or a star. Other lines are comments, settings or empty. -/
def isScheduleLine (line : String) : Bool :=
  match Text.trimStart line.toList with
  | c :: _ => c.isDigit || c == '*'
  | [] => false

end Timetable
