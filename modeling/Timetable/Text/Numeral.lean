/-!
# Numerals

Numbers are written with ASCII digits only, and with ASCII letters where the base is above
ten.

## Main definitions

- `digits` — the shortest numeral of a number
- `padded` — the numeral with leading zeros up to a width
- `numeral?` — the value of a non-empty run of digits, with any number of leading zeros
- `basedNumeral?` — the same in another base
-/

namespace Timetable.Text

/-- The shortest decimal numeral of `n`. -/
def digits (n : Nat) : List Char :=
  Nat.toDigits 10 n

/-- The decimal numeral of `n`, with leading zeros to make it at least `width` long. -/
def padded (width n : Nat) : List Char :=
  List.replicate (width - (digits n).length) '0' ++ digits n

def numeral? (cs : List Char) : Option Nat :=
  if !cs.isEmpty && cs.all Char.isDigit then some (Nat.ofDigitChars 10 cs 0) else none

/-- The value of a digit or of a letter that serves as one. -/
def digitValue? (c : Char) : Option Nat :=
  if c.isDigit then some (c.toNat - '0'.toNat)
  else if 'a' ≤ c ∧ c ≤ 'f' then some (c.toNat - 'a'.toNat + 10)
  else if 'A' ≤ c ∧ c ≤ 'F' then some (c.toNat - 'A'.toNat + 10)
  else none

/-- The value of a non-empty text of digits below `base`, which is at most sixteen. -/
def basedNumeral? (base : Nat) (cs : List Char) : Option Nat :=
  if cs ≠ [] then
    (cs.mapM fun c => (digitValue? c).filter (· < base)).map fun ds =>
      ds.foldl (fun n d => base * n + d) 0
  else none

theorem numeral?_digits (n : Nat) : numeral? (digits n) = some n := by
  have all : (digits n).all Char.isDigit = true := List.all_eq_true.2 fun _ hc =>
    Nat.isDigit_of_mem_toDigits (by decide) (by decide) hc
  have nonempty : (digits n).isEmpty = false := List.isEmpty_eq_false_iff.2 Nat.toDigits_ne_nil
  rw [numeral?, all, nonempty, digits, Nat.ofDigitChars_ten_toDigits]
  rfl

end Timetable.Text
