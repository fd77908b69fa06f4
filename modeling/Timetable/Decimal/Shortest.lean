import Timetable.Decimal.Binary64
/-!
# Shortest decimals

The decimal that stands for a binary64 number is the one with the fewest digits that lies
nearer to the number than to any other, and of those with the same number of digits the one
nearest to it.

The reals that round to a number form an interval, which holds its ends exactly if the
significand is even. On a decimal grid, if any point lies in the interval, one of the two
points around the number does; grids are tried from coarse to fine.

## Main definitions

- `Binary64.gridPoint?` — the point of a grid that stands for a number
- `Binary64.shortest` — the digits and the power of ten of the shortest decimal
-/

namespace Timetable.Binary64

/-- The multiple of `10 ^ power` that stands for a positive number: the nearer of the two
around it, if it rounds to the number. Lengths are measured in quarters of the last place of
the significand; below a power of two the next smaller number is only half as far away. -/
def gridPoint? (x : Binary64) (power : Int) : Option Nat :=
  let unit := Nat.pow 2 (x.exponent - 2).toNat * Nat.pow 10 (-power).toNat
  let step := Nat.pow 2 (2 - x.exponent).toNat * Nat.pow 10 power.toNat
  let value := 4 * x.significand * unit
  let below := if x.significand = Nat.pow 2 52 ∧ -1074 < x.exponent then 1 else 2
  let low := (4 * x.significand - below) * unit
  let high := (4 * x.significand + 2) * unit
  let inside (n : Nat) : Bool :=
    if x.significand % 2 = 0 then low ≤ n * step ∧ n * step ≤ high
    else low < n * step ∧ n * step < high
  let lower := value / step
  match inside lower, inside (lower + 1) with
  | true, true => some (roundDiv value step)
  | true, false => some lower
  | false, true => some (lower + 1)
  | false, false => none

/-- The first grid from `10 ^ power` downwards, of at most `tries`, with a point that stands
for the number. -/
def searchGrids (x : Binary64) : Nat → Int → Nat × Int
  | 0, power => (x.significand, power)
  | tries + 1, power =>
    match x.gridPoint? power with
    | some n => (n, power)
    | none => searchGrids x tries (power - 1)

/-- The shortest decimal of a positive number, as digits and a power of ten. The first grid
is coarser than the number, and seventeen digits are always enough. -/
def shortest (x : Binary64) : Nat × Int :=
  let bits := (Nat.log2 x.significand : Int) + 1 + x.exponent
  x.searchGrids 24 (bits * 30103 / 100000 + 1)

end Timetable.Binary64
