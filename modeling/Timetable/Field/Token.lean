import Timetable.Field
import Timetable.Text.Numeral
/-!
# Field tokens

A field is written as one token, in one of four forms: a number `17`, a list `16,46`, a
range `12-23`, or a wildcard `*`, which may be thinned out to every `n`-th value as `*/n`.
The forms do not nest. A token with a comma is a list whatever else it holds, and one with
a dash but no comma is a range.

## Main definitions

- `Field.number?` — the numbers that a token may hold
- `Field.values?` — the values of a token, or nothing if it has none of the four forms
-/

namespace Timetable.Field

def maxNumber : Nat := 4294967295

/-- The greatest distance between the ends of a range. -/
def maxSpan : Nat := 255

/-- A number of a token: digits only, and no more than `maxNumber`. -/
def number? (cs : List Char) : Option Nat :=
  (Text.numeral? cs).filter (· ≤ maxNumber)

def list? (cs : List Char) : Option (List Nat) :=
  (cs.splitOn ',').mapM number?

/-- The values from `first` to `last`, ascending; none if `first` is greater. -/
def range? (first last : List Char) : Option (List Nat) := do
  let first ← number? first
  let last ← number? last
  if last - first ≤ maxSpan then some (List.range' first (last + 1 - first)) else none

/-- The step of a wildcard: one for a bare `*`, and a positive number otherwise. -/
def step? : List Char → Option Nat
  | ['*'] => some 1
  | '*' :: '/' :: cs => (number? cs).filter (0 < ·)
  | _ => none

/-- The values that a token stands for in the column `c`. -/
def values? (c : Column) (cs : List Char) : Option (List Nat) :=
  match number? cs with
  | some n => some [n]
  | none =>
    if ',' ∈ cs then list? cs
    else if '-' ∈ cs then
      range? (cs.takeWhile (· ≠ '-')) ((cs.dropWhile (· ≠ '-')).tail)
    else (step? cs).map c.every

end Timetable.Field
