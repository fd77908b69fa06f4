import Timetable.Proofs.Minutes
/-!
# The order of stamp keys

Digits of a fixed width compare byte by byte as the numbers compare, as far as the width shows
them. A key is a row of such digits with the same separators between them, so that keys are
ordered like the numbers that all their digits make. For a minute of the years 0 to 9999 this
is the order of time.

## Main definitions

- `StampKey.number` — the number that the digits `YYYYMMDDHHMM` of a key make

## Main statements

- `StampKey.le_of_iff` — keys are ordered like their numbers
- `Moment.key_le_key_iff` — keys of minutes are ordered like the minutes
- `Window.admits_key` — comparing with the keys of a window is comparing with its ends
-/

namespace Timetable

namespace StampKey

/-! ## Digits -/

@[simp] theorem length_digitBytes (width n : Nat) : (digitBytes width n).length = width := by
  induction width generalizing n with
  | zero => rfl
  | succ width ih => simp [digitBytes, ih]

theorem toNat_digit {a : Nat} (h : a < 10) : (UInt8.ofNat (48 + a)).toNat = 48 + a := by
  rw [UInt8.toNat_ofNat']
  omega

theorem digit_lt_iff {a b : Nat} (ha : a < 10) (hb : b < 10) :
    UInt8.ofNat (48 + a) < UInt8.ofNat (48 + b) ↔ a < b := by
  rw [UInt8.lt_iff_toNat_lt, toNat_digit ha, toNat_digit hb]
  omega

theorem digit_eq_iff {a b : Nat} (ha : a < 10) (hb : b < 10) :
    UInt8.ofNat (48 + a) = UInt8.ofNat (48 + b) ↔ a = b := by
  rw [← UInt8.toNat_inj, toNat_digit ha, toNat_digit hb]
  omega

@[simp] theorem le_cons_self (byte : UInt8) (s t : List UInt8) :
    le (byte :: s) (byte :: t) = le s t := by
  rw [le, if_pos rfl]

theorem le_digit_cons {a b : Nat} (ha : a < 10) (hb : b < 10) (s t : List UInt8) :
    le (UInt8.ofNat (48 + a) :: s) (UInt8.ofNat (48 + b) :: t) = true ↔
      a < b ∨ a = b ∧ le s t = true := by
  rw [le]
  by_cases h : a = b
  · rw [if_pos (congrArg (fun n => UInt8.ofNat (48 + n)) h)]
    simp [h]
  · rw [if_neg fun heq => h ((digit_eq_iff ha hb).1 heq), decide_eq_true_iff, digit_lt_iff ha hb]
    simp [h]

/-- Numbers with as many digits each come before what follows them: they decide, unless the
digits agree. The induction takes the last digit to what follows. -/
theorem le_digitBytes_append (width m n : Nat) (s t : List UInt8) :
    le (digitBytes width m ++ s) (digitBytes width n ++ t) = true ↔
      m % 10 ^ width < n % 10 ^ width ∨
        m % 10 ^ width = n % 10 ^ width ∧ le s t = true := by
  induction width generalizing m n s t with
  | zero => simp [digitBytes, Nat.mod_one]
  | succ width ih =>
    -- A number cut to its last digits is the cut of its front and the last digit.
    have hm : m % 10 ^ (width + 1) = m % 10 + 10 * (m / 10 % 10 ^ width) := by
      rw [Nat.pow_succ', Nat.mod_mul]
    have hn : n % 10 ^ (width + 1) = n % 10 + 10 * (n / 10 % 10 ^ width) := by
      rw [Nat.pow_succ', Nat.mod_mul]
    have hlastm := Nat.mod_lt m (by decide : 0 < 10)
    have hlastn := Nat.mod_lt n (by decide : 0 < 10)
    rw [digitBytes, digitBytes, List.append_assoc, List.append_assoc, List.singleton_append,
      List.singleton_append, ih, le_digit_cons hlastm hlastn, hm, hn]
    -- What is left speaks of the fronts and the last digits only.
    generalize m / 10 % 10 ^ width = headm
    generalize n / 10 % 10 ^ width = headn
    by_cases h : le s t = true
    · simp only [h, and_true]
      omega
    · simp only [h, Bool.false_eq_true, and_false, or_false]
      omega

theorem le_digitBytes (width m n : Nat) :
    le (digitBytes width m) (digitBytes width n) = true ↔ m % 10 ^ width ≤ n % 10 ^ width := by
  have h := le_digitBytes_append width m n [] []
  rw [List.append_nil, List.append_nil] at h
  rw [h, Nat.le_iff_lt_or_eq]
  simp [le]

/-! ## Keys -/

/-- The number that the digits `YYYYMMDDHHMM` make. -/
def number (year month day hour minute : Nat) : Nat :=
  (((year * 100 + month) * 100 + day) * 100 + hour) * 100 + minute

section
variable (year month day hour minute year' month' day' hour' minute' : Nat)

theorem of_eq :
    of year month day hour minute =
      digitBytes 4 year ++ 45 :: (digitBytes 2 month ++ 45 :: (digitBytes 2 day ++
        32 :: (digitBytes 2 hour ++ 58 :: digitBytes 2 minute))) := by
  simp [of]

theorem day_of :
    StampKey.day (of year month day hour minute) =
      digitBytes 4 year ++ 45 :: (digitBytes 2 month ++ 45 :: digitBytes 2 day) := by
  have hlength : (digitBytes 4 year ++ 45 :: (digitBytes 2 month ++ 45 ::
      digitBytes 2 day)).length = 10 := by simp
  rw [of_eq, StampKey.day, ← hlength]
  simp only [← List.cons_append, ← List.append_assoc]
  rw [List.append_assoc, List.append_assoc]
  exact List.take_left

/-- Keys are ordered like their numbers, of which each part is cut to its place. -/
theorem le_of_iff :
    le (of year month day hour minute) (of year' month' day' hour' minute') = true ↔
      number (year % 10000) (month % 100) (day % 100) (hour % 100) (minute % 100) ≤
        number (year' % 10000) (month' % 100) (day' % 100) (hour' % 100) (minute' % 100) := by
  simp only [of_eq, le_digitBytes_append, le_cons_self, le_digitBytes, number, Nat.reducePow]
  omega

theorem le_day_of_iff :
    le (StampKey.day (of year month day hour minute))
        (StampKey.day (of year' month' day' hour' minute')) = true ↔
      (year % 10000 * 100 + month % 100) * 100 + day % 100 ≤
        (year' % 10000 * 100 + month' % 100) * 100 + day' % 100 := by
  simp only [day_of, le_digitBytes_append, le_cons_self, le_digitBytes, Nat.reducePow]
  omega

end

end StampKey

namespace Moment

/-- In the years with four digits a key has all digits of its minute. -/
theorem number_eq_inDigits {t : Moment} (h : IsFourDigitYear t.date.year) :
    (StampKey.number (t.date.year.toNat % 10000) (t.date.month % 100) (t.date.day % 100)
      (t.hour % 100) (t.minute % 100) : Int) = t.inDigits := by
  obtain ⟨hhour, hminute, -⟩ := t.isTimeOfDay
  obtain ⟨hfirst, hlast⟩ := h
  have hmonth := t.date.month_le
  have hday := t.date.day_le
  simp only [StampKey.number, inDigits, Date.inDigits]
  omega

/-- Keys of minutes are ordered like the minutes. -/
theorem key_le_key_iff {a b : Moment} (ha : a.floor = a) (hb : b.floor = b)
    (hya : IsFourDigitYear a.date.year) (hyb : IsFourDigitYear b.date.year) :
    StampKey.le a.key b.key = true ↔ a ≤ b := by
  rw [key, key, StampKey.le_of_iff, le_iff_inDigits_le ha hb, ← number_eq_inDigits hya,
    ← number_eq_inDigits hyb, Int.ofNat_le]

theorem le_day_key_of_le {a b : Moment} (hya : IsFourDigitYear a.date.year)
    (hyb : IsFourDigitYear b.date.year) (h : a ≤ b) :
    StampKey.le a.key.day b.key.day = true := by
  have hdigits := minuteNumber_le_iff.1 (minuteNumber_le_of_le h)
  rw [← number_eq_inDigits hya, ← number_eq_inDigits hyb] at hdigits
  rw [key, key, StampKey.le_day_of_iff]
  simp only [StampKey.number] at hdigits
  omega

end Moment

namespace Window

variable (w : Window) {t : Moment}

/-! ## Comparing with the keys of a window -/

theorem fourDigitYear_of_contains (h : w.contains t = true) : IsFourDigitYear t.date.year := by
  obtain ⟨hearliest, hlatest⟩ := w.contains_iff.1 h
  exact ⟨Int.le_trans w.fourDigitYear_earliest.1 (Moment.year_le_of_le hearliest),
    Int.le_trans (Moment.year_le_of_le hlatest) w.fourDigitYear_latest.2⟩

theorem admits_key (hfloor : t.floor = t) (hyear : IsFourDigitYear t.date.year) :
    w.admits t.key = w.contains t := by
  rw [Bool.eq_iff_iff, contains_iff, admits, Bool.and_eq_true, earliestKey_eq, latestKey_eq,
    Moment.key_le_key_iff w.floor_earliest hfloor w.fourDigitYear_earliest hyear,
    Moment.key_le_key_iff hfloor w.floor_latest hyear w.fourDigitYear_latest]

/-- The day of a moment in the window passes the comparison of days. -/
theorem admitsDay_of_contains (h : w.contains t = true) : w.admitsDay t.key = true := by
  obtain ⟨hearliest, hlatest⟩ := w.contains_iff.1 h
  have hyear := w.fourDigitYear_of_contains h
  rw [admitsDay, Bool.and_eq_true, earliestKey_eq, latestKey_eq]
  exact ⟨Moment.le_day_key_of_le w.fourDigitYear_earliest hyear hearliest,
    Moment.le_day_key_of_le hyear w.fourDigitYear_latest hlatest⟩

/-- The comparison of days looks at the date only. -/
theorem admitsDay_of (year month day hour minute : Nat) :
    w.admitsDay (StampKey.of year month day hour minute) =
      w.admitsDay (StampKey.of year month day 0 0) := by
  simp only [admitsDay, StampKey.day_of]

end Window

end Timetable
