import Timetable.Column
/-!
# Fields

A field is a column of a schedule together with the values at which it matches, in the
order in which they were written. Values outside the column's domain are kept: no date or
time has them, so they match nothing.

## Main definitions

- `Field` — the values of one column
- `Field.full`, `Field.every` — the whole domain, or every `n`-th value of it
- `Field.coversDomain` — whether each value of the domain is among the field's values
-/

namespace Timetable

/-- The values that one column of a schedule matches, in order and with repetitions. -/
structure Field (c : Column) where
  values : List Nat
  deriving DecidableEq, Repr

namespace Field

variable {c : Column}

def every (c : Column) (step : Nat) : Field c :=
  ⟨c.every step⟩

def full (c : Column) : Field c :=
  ⟨c.domain⟩

def contains (f : Field c) (value : Nat) : Bool :=
  f.values.contains value

/-- Whether the field matches every value of the domain, in whatever order and however
often they are listed. -/
def coversDomain (f : Field c) : Bool :=
  c.domain.all f.contains

end Field

end Timetable
