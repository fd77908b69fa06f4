/-!
# Columns of a schedule line

The five columns in front of the command, each with the name used in messages and the
domain a wildcard expands over.
-/

namespace Timetable

/-- One of the five columns that say when a job fires. -/
inductive Column where
  | minute
  | hour
  | day
  | month
  | weekday
  deriving DecidableEq, Repr

namespace Column

/-- The columns in the order in which a line holds them. -/
def all : List Column :=
  [minute, hour, day, month, weekday]

/-- The name by which messages call the column. -/
def name : Column → String
  | minute => "minute"
  | hour => "hour"
  | day => "day-of-month"
  | month => "month"
  | weekday => "day-of-week"

def first : Column → Nat
  | minute => 0
  | hour => 0
  | day => 1
  | month => 1
  | weekday => 0

/-- The greatest value of the domain. Weekdays run from Sunday, 0, to Saturday, 6. -/
def last : Column → Nat
  | minute => 59
  | hour => 23
  | day => 31
  | month => 12
  | weekday => 6

/-- Every `step`-th value of the domain, from its least value on. -/
def every (c : Column) (step : Nat) : List Nat :=
  List.range' c.first ((c.last - c.first) / step + 1) step

def domain (c : Column) : List Nat :=
  c.every 1

end Column

end Timetable
