import Timetable.Toml.Space
import Timetable.Toml.Value
/-!
# Numbers in TOML

Single underscores may stand between the digits of a number. A decimal integer has no
leading zeros; a hexadecimal, octal or binary one has no sign. A number with a fraction or an
exponent is a float.

## Main definitions

- `Toml.integer`, `Toml.float` — the two kinds of numbers
-/

namespace Timetable.Toml

open Text Text.Reader

def maxInteger : Int := 9223372036854775807

def minInteger : Int := -9223372036854775808

/-- Digits of a class, with single underscores between them. -/
def digitRun (isDigit : Char → Bool) : Reader (List Char) := do
  let first ← run1 isDigit
  let later ← many (do literal "_"; run1 isDigit)
  pure (first ++ later.flatten)

/-- An optional sign; whether it is a minus. -/
def sign : Reader Bool := do
  let c ← optional (char fun c => c = '+' || c = '-')
  pure (c == some '-')

/-- The digits of a whole number: a zero alone, or digits without a zero in front. -/
def wholeDigits : Reader (List Char) :=
  (literal "0" *> pure ['0']) <|> digitRun Char.isDigit

def decimalInteger : Reader Int := do
  let negative ← sign
  let ds ← wholeDigits
  let n : Int := Nat.ofDigitChars 10 ds 0
  let value := if negative then -n else n
  if minInteger ≤ value ∧ value ≤ maxInteger then pure value else failure

/-- An integer in another base, after the letters that name the base. -/
def basedInteger (letters : String) (base : Nat) : Reader Int := do
  literal letters
  let ds ← digitRun fun c => (digitValue? c).any (· < base)
  match basedNumeral? base ds with
  | some n => if (n : Int) ≤ maxInteger then pure n else failure
  | none => failure

def integer : Reader Int :=
  basedInteger "0x" 16 <|> basedInteger "0o" 8 <|> basedInteger "0b" 2 <|> decimalInteger

def fractionDigits : Reader (List Char) := do
  literal "."
  digitRun Char.isDigit

def exponent : Reader Int := do
  let _ ← char fun c => c = 'e' || c = 'E'
  let negative ← sign
  let ds ← digitRun Char.isDigit
  let n : Int := Nat.ofDigitChars 10 ds 0
  pure (if negative then -n else n)

/-- A float with digits, rounded to binary64. One that is too small has no finite value, and
one that is too large is no float. -/
def finiteFloat : Reader Value := do
  let negative ← sign
  let whole ← wholeDigits
  let fraction ← optional fractionDigits
  let power ← if fraction.isSome then optional exponent else some <$> exponent
  let after := fraction.getD []
  let ds := Nat.ofDigitChars 10 (whole ++ after) 0
  match Binary64.ofDecimal? negative ds (power.getD 0 - after.length) with
  | some x => pure (.float x)
  | none => if negative then pure .nonFinite else failure

def specialFloat : Reader Value := do
  let _ ← sign
  literal "inf" <|> literal "nan"
  pure .nonFinite

def float : Reader Value :=
  finiteFloat <|> specialFloat

end Timetable.Toml
