/-!
# Finite binary64 numbers

The finite numbers of the format binary64: an integer below 2⁵³ times a power of two, with a
sign that zero has too. Arithmetic here is on integers, so every rounding is exact.

## Main definitions

- `Binary64` — a finite number
- `roundDiv` — a quotient rounded to the nearest integer
- `Binary64.nearest?` — the number nearest to a fraction
- `Binary64.ofDecimal?` — the number nearest to a decimal
-/

namespace Timetable

/-- The significand fills 53 bits, unless the exponent is the least one. -/
def IsBinary64 (significand : Nat) (exponent : Int) : Prop :=
  significand < Nat.pow 2 53 ∧ -1074 ≤ exponent ∧ exponent ≤ 971 ∧
    (Nat.pow 2 52 ≤ significand ∨ exponent = -1074)

instance (significand : Nat) (exponent : Int) : Decidable (IsBinary64 significand exponent) :=
  inferInstanceAs (Decidable (_ ∧ _))

/-- The number `significand · 2 ^ exponent`, or its negative. -/
structure Binary64 where
  negative : Bool
  significand : Nat
  exponent : Int
  isBinary64 : IsBinary64 significand exponent
  deriving DecidableEq, Repr

/-- The integer nearest to a quotient; of two equally near ones the even one. -/
def roundDiv (num den : Nat) : Nat :=
  let quotient := num / den
  let twice := 2 * (num % den)
  if twice < den then quotient
  else if den < twice then quotient + 1
  else quotient + quotient % 2

namespace Binary64

def zero (negative : Bool) : Binary64 :=
  ⟨negative, 0, -1074, by decide⟩

/-- The fraction `num / den` divided by `2 ^ exponent` and rounded. -/
def scaled (num den : Nat) (exponent : Int) : Nat :=
  roundDiv (num * Nat.pow 2 (-exponent).toNat) (den * Nat.pow 2 exponent.toNat)

/-- The exponent with which the fraction `num / den` has a significand of 53 bits, or the
least exponent if the fraction is too small for that. -/
def exponentOf (num den : Nat) : Int :=
  let guess : Int := (Nat.log2 num : Int) - Nat.log2 den - 53
  let whole := num * Nat.pow 2 (-guess).toNat / (den * Nat.pow 2 guess.toNat)
  max (-1074) (if Nat.pow 2 53 ≤ whole then guess + 1 else guess)

/-- The number nearest to `num / den`, or nothing if that is beyond the greatest one. -/
def nearest? (negative : Bool) (num den : Nat) : Option Binary64 :=
  if num = 0 then some (zero negative)
  else
    let exponent := exponentOf num den
    let rounded := scaled num den exponent
    let result : Nat × Int :=
      if rounded = Nat.pow 2 53 then (Nat.pow 2 52, exponent + 1) else (rounded, exponent)
    if h : IsBinary64 result.1 result.2 then some ⟨negative, result.1, result.2, h⟩ else none

/-- The number nearest to `digits · 10 ^ exponent`. Decimals outside 10⁻³³⁰ to 10³¹⁰ are
decided without computing the power. -/
def ofDecimal? (negative : Bool) (digits : Nat) (exponent : Int) : Option Binary64 :=
  let magnitude := exponent + (Nat.toDigits 10 digits).length
  if digits = 0 ∨ magnitude < -330 then some (zero negative)
  else if 310 < magnitude then none
  else nearest? negative (digits * Nat.pow 10 exponent.toNat) (Nat.pow 10 (-exponent).toNat)

end Binary64

end Timetable
