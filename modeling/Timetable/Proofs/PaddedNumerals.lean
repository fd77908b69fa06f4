import Mathlib
import Timetable.Calendar.Moment
/-!
# Numerals with leading zeros

A numeral that is filled up with zeros still has its number as its value. Numerals of one width
are ordered as texts like the numbers they stand for, whatever follows them.

## Main statements

- `Text.padded_injective` — the number of a numeral with leading zeros
- `Text.padded_append_lt_iff` — the order of numerals of one width
- `Moment.clockText_append_lt_iff` — the order of texts that begin with a time of day
-/

namespace Timetable

namespace Text

/-! ## Values -/

theorem ofDigitChars_padded (width n : Nat) : Nat.ofDigitChars 10 (padded width n) 0 = n := by
  rw [padded, Nat.ofDigitChars_append, Nat.ofDigitChars_replicate_zero, Nat.mul_zero, digits,
    Nat.ofDigitChars_ten_toDigits]

theorem padded_injective {width width' m n : Nat} (h : padded width m = padded width' n) :
    m = n := by
  rw [← ofDigitChars_padded width m, h, ofDigitChars_padded]

theorem isDigit_of_mem_padded {width n : Nat} {c : Char} (h : c ∈ padded width n) :
    c.isDigit = true := by
  rcases List.mem_append.1 h with hzero | hdigit
  · rw [List.eq_of_mem_replicate hzero]
    rfl
  · exact Nat.isDigit_of_mem_toDigits (by decide) (by decide) hdigit

/-- A number with no more digits than the width fills the width. -/
theorem length_padded {width n : Nat} (hwidth : 0 < width) (h : n < 10 ^ width) :
    (padded width n).length = width := by
  have hle : (digits n).length ≤ width := (Nat.length_toDigits_le_iff (by decide) hwidth).2 h
  rw [padded, List.length_append, List.length_replicate]
  omega

theorem exists_padded_eq_cons {width n : Nat} (hwidth : 0 < width) (h : n < 10 ^ width) :
    ∃ c cs, padded width n = c :: cs ∧ c.isDigit = true := by
  have hpos : 0 < (padded width n).length := by rwa [length_padded hwidth h]
  obtain ⟨c, cs, hcs⟩ := List.exists_cons_of_length_pos hpos
  exact ⟨c, cs, hcs, isDigit_of_mem_padded (hcs ▸ List.mem_cons_self)⟩

/-! ## Order -/

theorem padded_one {n : Nat} (h : n < 10) : padded 1 n = [n.digitChar] := by
  rw [padded, digits, Nat.toDigits_of_lt_base h]
  rfl

/-- The last digit can be taken off if another place is left. -/
theorem padded_succ {width : Nat} (hwidth : 0 < width) (n : Nat) :
    padded (width + 1) n = padded width (n / 10) ++ [Nat.digitChar (n % 10)] := by
  by_cases h : n < 10
  · obtain ⟨places, rfl⟩ := Nat.exists_eq_add_of_le' hwidth
    rw [padded, padded, digits, digits, Nat.div_eq_of_lt h, Nat.mod_eq_of_lt h,
      Nat.toDigits_of_lt_base h, Nat.toDigits_zero]
    simp [List.replicate_succ']
  · have hdigits : digits n = digits (n / 10) ++ [Nat.digitChar (n % 10)] :=
      Nat.toDigits_of_base_le (by decide) (Nat.le_of_not_lt h)
    rw [padded, padded, hdigits, List.length_append, List.length_singleton,
      Nat.add_sub_add_right, List.append_assoc]

theorem digitChar_lt_iff {a b : Nat} (ha : a < 10) (hb : b < 10) :
    a.digitChar < b.digitChar ↔ a < b := by
  rw [Char.lt_def, UInt32.lt_iff_toNat_lt]
  show a.digitChar.toNat < b.digitChar.toNat ↔ _
  rw [Nat.toNat_digitChar_of_lt_ten ha, Nat.toNat_digitChar_of_lt_ten hb]
  omega

theorem digitChar_eq_iff {a b : Nat} (ha : a < 10) (hb : b < 10) :
    a.digitChar = b.digitChar ↔ a = b := by
  rw [← Char.toNat_inj, Nat.toNat_digitChar_of_lt_ten ha, Nat.toNat_digitChar_of_lt_ten hb]
  omega

/-- Numbers of one width come before what follows them: they decide, unless they are equal. The
induction takes the last digit to what follows. -/
theorem padded_append_lt_iff {width m n : Nat} (hwidth : 0 < width) (hm : m < 10 ^ width)
    (hn : n < 10 ^ width) (s t : List Char) :
    padded width m ++ s < padded width n ++ t ↔ m < n ∨ m = n ∧ s < t := by
  induction width, hwidth using Nat.le_induction generalizing m n s t with
  | base =>
    have hm : m < 10 := hm
    have hn : n < 10 := hn
    rw [padded_one hm, padded_one hn, List.singleton_append, List.singleton_append,
      List.cons_lt_cons_iff, digitChar_lt_iff hm hn, digitChar_eq_iff hm hn]
  | succ width hwidth ih =>
    have hm' : m / 10 < 10 ^ width := Nat.div_lt_of_lt_mul (by rwa [← Nat.pow_succ'])
    have hn' : n / 10 < 10 ^ width := Nat.div_lt_of_lt_mul (by rwa [← Nat.pow_succ'])
    have hlastm := Nat.mod_lt m (by decide : 0 < 10)
    have hlastn := Nat.mod_lt n (by decide : 0 < 10)
    rw [padded_succ hwidth, padded_succ hwidth, List.append_assoc, List.append_assoc,
      List.singleton_append, List.singleton_append, ih hm' hn', List.cons_lt_cons_iff,
      digitChar_lt_iff hlastm hlastn, digitChar_eq_iff hlastm hlastn]
    generalize (s < t) = later
    by_cases h : later
    · simp only [h, and_true]
      omega
    · simp only [h, and_false, or_false]
      omega

end Text

/-- Texts that begin with a time of day are ordered by it, and by what follows it if it is the
same. -/
theorem Moment.clockText_append_lt_iff (t u : Moment) (rest rest' : List Char) :
    t.clockText ++ rest < u.clockText ++ rest' ↔
      t.hour < u.hour ∨ t.hour = u.hour ∧
        (t.minute < u.minute ∨ t.minute = u.minute ∧ rest < rest') := by
  obtain ⟨hhour, hminute, -⟩ := t.isTimeOfDay
  obtain ⟨hhour', hminute', -⟩ := u.isTimeOfDay
  rw [clockText, clockText, List.append_assoc, List.append_assoc,
    Text.padded_append_lt_iff (by decide) (by omega) (by omega), List.cons_append,
    List.cons_append, List.cons_lt_cons_iff,
    Text.padded_append_lt_iff (by decide) (by omega) (by omega)]
  simp

end Timetable
