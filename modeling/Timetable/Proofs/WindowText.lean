import Mathlib
import Timetable.Config.Bounds
import Timetable.Proofs.Occurrences
import Timetable.Proofs.WindowEnds
import Timetable.Proofs.Words
import Timetable.Proofs.WrittenMoments
/-!
# Windows in writing

The text of a minute in the years 0 to 9999 has one width, its bytes are the key of the minute, and
read as a timestamp it is that minute, whatever blanks stand around it. A window is therefore found
again from the two halves of its text.

## Main statements

- `Moment.bytes_minuteText` — the bytes of a text are the key
- `Timestamp.read_eq_ok` — numbers with their leading zeros are read
- `Moment.parseTimestamp_minuteText` — a minute is read as it is written
- `window_found_from_text` — both for the ends of a window
-/

namespace Timetable

open Text Calendar

/-! ## Bytes -/

theorem utf8EncodeChar_digitChar {n : Nat} (h : n < 10) :
    String.utf8EncodeChar n.digitChar = [UInt8.ofNat (48 + n)] := by
  interval_cases n <;> rfl

/-- The bytes of a numeral are its digits. The induction takes off the last one. -/
theorem flatMap_utf8EncodeChar_padded {width n : Nat} (hwidth : 0 < width) (h : n < 10 ^ width) :
    (padded width n).flatMap String.utf8EncodeChar = StampKey.digitBytes width n := by
  induction width, hwidth using Nat.le_induction generalizing n with
  | base =>
    have h : n < 10 := h
    rw [padded_one h, StampKey.digitBytes, StampKey.digitBytes, Nat.mod_eq_of_lt h,
      List.flatMap_singleton, utf8EncodeChar_digitChar h, List.nil_append]
  | succ width hwidth ih =>
    have hfront : n / 10 < 10 ^ width := Nat.div_lt_of_lt_mul (by rwa [← Nat.pow_succ'])
    have hlast := Nat.mod_lt n (by decide : 0 < 10)
    rw [padded_succ hwidth, List.flatMap_append, ih hfront, List.flatMap_singleton,
      utf8EncodeChar_digitChar hlast, StampKey.digitBytes]

namespace Moment

variable {t : Moment} (h : IsFourDigitYear t.date.year)

include h

theorem year_toNat_lt : t.date.year.toNat < 10 ^ 4 := by
  obtain ⟨hfirst, hlast⟩ := h
  omega

theorem minuteChars_eq :
    t.minuteChars =
      padded 4 t.date.year.toNat ++ '-' :: (padded 2 t.date.month ++ '-' :: (padded 2 t.date.day ++
        ' ' :: (padded 2 t.hour ++ ':' :: padded 2 t.minute))) := by
  have hyear : yearText t.date.year = padded 4 t.date.year.toNat := if_pos h
  rw [minuteChars, Date.text, hyear, clockText]
  simp

theorem length_minuteText : t.minuteText.length = 16 := by
  obtain ⟨hhour, hminute, -⟩ := t.isTimeOfDay
  have hmonth := t.date.month_le
  have hday := t.date.day_le
  rw [minuteText, String.length_ofList, minuteChars_eq h]
  simp only [List.length_append, List.length_cons]
  rw [length_padded (by decide) (year_toNat_lt h), length_padded (by decide) (by omega),
    length_padded (by decide) (by omega), length_padded (by decide) (by omega),
    length_padded (by decide) (by omega)]

/-- The key of a minute is made of the bytes of its text. -/
theorem bytes_minuteText : t.minuteText.toUTF8.data.toList = t.key := by
  obtain ⟨hhour, hminute, -⟩ := t.isTimeOfDay
  have hmonth := t.date.month_le
  have hday := t.date.day_le
  have hbytes : t.minuteText.toUTF8.data.toList = t.minuteChars.flatMap String.utf8EncodeChar :=
    List.toList_data_toByteArray
  rw [hbytes, minuteChars_eq h, key, StampKey.of_eq]
  simp only [List.flatMap_append, List.flatMap_cons]
  rw [flatMap_utf8EncodeChar_padded (by decide) (year_toNat_lt h),
    flatMap_utf8EncodeChar_padded (by decide) (by omega),
    flatMap_utf8EncodeChar_padded (by decide) (by omega),
    flatMap_utf8EncodeChar_padded (by decide) (by omega),
    flatMap_utf8EncodeChar_padded (by decide) (by omega)]
  rfl

/-- The text of a minute begins and ends with a digit, so that blanks around it are trimmed. -/
theorem isTrimmed_minuteChars {before after : List Char} (hbefore : IsGap before)
    (hafter : IsGap after) : IsTrimmed (before ++ t.minuteChars ++ after) t.minuteChars := by
  refine ⟨⟨before, after, rfl, hbefore, hafter⟩, ?_, ?_⟩
  · obtain ⟨c, cs, hcs, hdigit⟩ := exists_padded_eq_cons (by decide) (year_toNat_lt h)
    intro d hd
    rw [minuteChars_eq h, hcs] at hd
    obtain rfl : c = d := by simpa using hd
    exact isBlank_of_isDigit hdigit
  · have hminute : t.minute < 10 ^ 2 := Nat.lt_trans t.isTimeOfDay.2.1 (by decide)
    obtain ⟨c, cs, hcs, -⟩ := exists_padded_eq_cons (by decide) hminute
    intro d hd
    have hmem : d ∈ padded 2 t.minute := by
      rw [minuteChars_eq h, hcs] at hd
      rw [hcs]
      apply List.mem_of_mem_getLast?
      simpa [List.getLast?_append, List.getLast?_cons] using hd
    exact isBlank_of_isDigit (isDigit_of_mem_padded hmem)

end Moment

/-! ## Reading -/

namespace Timestamp

variable {width n : Nat}

/-- A numeral that fills its width is read as it stands, whatever follows it. -/
theorem number_padded (hwidth : 0 < width) (h : n < 10 ^ width) (hmax : n ≤ maxNumber)
    (rest : List Char) : number (some width) (padded width n ++ rest) = .ok (n, rest) := by
  have hrun : ((padded width n ++ rest).take width).takeWhile Char.isDigit = padded width n := by
    rw [List.take_left' (length_padded hwidth h), List.takeWhile_eq_self_iff]
    exact fun c => isDigit_of_mem_padded
  have hdrop : (padded width n ++ rest).drop (padded width n).length = rest := List.drop_left
  have hvalue := ofDigitChars_padded width n
  -- The reader asks for the first character by itself before it takes the whole run.
  obtain ⟨c, cs, hcs, hdigit⟩ := exists_padded_eq_cons hwidth h
  rw [hcs] at hrun hdrop hvalue ⊢
  rw [List.cons_append] at hrun hdrop ⊢
  simp only [number, hdigit, if_true, Option.map_some, Option.getD_some, hrun, hvalue, hmax, hdrop]

theorem trimStart_padded (hwidth : 0 < width) (h : n < 10 ^ width) (rest : List Char) :
    trimStart (padded width n ++ rest) = padded width n ++ rest := by
  obtain ⟨c, cs, hcs, hdigit⟩ := exists_padded_eq_cons hwidth h
  rw [hcs]
  apply trimStart_of_head
  intro d hd
  obtain rfl : c = d := by simpa using hd
  exact isBlank_of_isDigit hdigit

/-- A year of four digits has no sign. -/
theorem year_padded (h : n < 10 ^ 4) (rest : List Char) :
    year (padded 4 n ++ rest) = .ok ((n : Int), rest) := by
  have hnumber := number_padded (by decide) h (by simp only [maxNumber]; omega) rest
  have hrange : -maxYear - 1 ≤ (n : Int) ∧ (n : Int) ≤ maxYear := by
    simp only [maxYear]
    omega
  rw [year, trimStart_padded (by decide) h]
  obtain ⟨c, cs, hcs, hdigit⟩ := exists_padded_eq_cons (by decide) h
  rw [hcs] at hnumber ⊢
  -- The first character is a digit, so that the cases with a sign cannot be.
  split
  · next hsign =>
    obtain ⟨rfl, -⟩ := List.cons.inj hsign
    cases hdigit
  · next hsign =>
    obtain ⟨rfl, -⟩ := List.cons.inj hsign
    cases hdigit
  · rw [hnumber]
    exact if_pos hrange

theorem part_padded {least greatest : Nat} (h : n < 10 ^ 2) (hrange : least ≤ n ∧ n ≤ greatest)
    (rest : List Char) : part least greatest (padded 2 n ++ rest) = .ok (n, rest) := by
  rw [part, trimStart_padded (by decide) h,
    number_padded (by decide) h (by simp only [maxNumber]; omega)]
  exact if_pos hrange

theorem part_space (least greatest : Nat) (text : List Char) :
    part least greatest (' ' :: text) = part least greatest text :=
  rfl

theorem separator_cons (c : Char) (rest : List Char) : separator c (c :: rest) = .ok rest :=
  if_pos rfl

/-- The five numbers of a minute, each with its leading zeros, are read as that minute. -/
theorem read_eq_ok {value : String} {y mo d h mi : Nat} {t : Moment} (hy : y < 10 ^ 4)
    (hmo : 1 ≤ mo ∧ mo ≤ 12) (hd : 1 ≤ d ∧ d ≤ 31) (hh : h ≤ 23) (hmi : mi ≤ 59)
    (hvalue : trim value.toList =
      padded 4 y ++ '-' :: (padded 2 mo ++ '-' :: (padded 2 d ++
        ' ' :: (padded 2 h ++ ':' :: padded 2 mi))))
    (ht : (date? y mo d).bind (Moment.ofMinute? · h mi) = some t) : read value = .ok t := by
  have hmonth := part_padded (by omega) hmo
  have hday := part_padded (by omega) hd
  have hhour := part_padded (by omega) ⟨Nat.zero_le h, hh⟩
  have hminute := part_padded (by omega) ⟨Nat.zero_le mi, hmi⟩ []
  rw [List.append_nil] at hminute
  rw [read, hvalue, year_padded hy]
  simp only [bind, Except.bind, separator_cons, part_space, hmonth, hday, hhour, hminute, ne_eq,
    not_true_eq_false, if_false]
  rw [ht]

end Timestamp

namespace Moment

/-- A minute of the years with four digits is read as it is written. -/
theorem parseTimestamp_minuteText {t : Moment} (hfloor : t.floor = t)
    (hyear : IsFourDigitYear t.date.year) {before after : String} (hbefore : IsGap before.toList)
    (hafter : IsGap after.toList) :
    Window.parseTimestamp (before ++ t.minuteText ++ after) = .ok t := by
  obtain ⟨hhour, hminute, -⟩ := t.isTimeOfDay
  have hdate : Timestamp.date? (t.date.year.toNat : Int) t.date.month t.date.day = some t.date := by
    obtain ⟨hfirst, hlast⟩ := hyear
    have hrange : Timestamp.firstYear ≤ t.date.year ∧ t.date.year ≤ Timestamp.lastYear := by
      simp only [Timestamp.firstYear, Timestamp.lastYear]
      omega
    rw [Timestamp.date?, Int.toNat_of_nonneg hfirst, if_pos hrange]
    exact Date.of?_eq_some_iff.2 ⟨rfl, rfl, rfl⟩
  have hmoment : (Timestamp.date? (t.date.year.toNat : Int) t.date.month t.date.day).bind
      (ofMinute? · t.hour t.minute) = some t := by
    rw [hdate]
    exact ofMinute?_eq_some_iff.2 ⟨rfl, rfl, rfl, hfloor⟩
  have hchars : (before ++ t.minuteText ++ after).toList =
      before.toList ++ t.minuteChars ++ after.toList := by
    simp [minuteText]
  have htrim := isTrimmed_iff.1 (isTrimmed_minuteChars hyear hbefore hafter)
  rw [← hchars, minuteChars_eq hyear] at htrim
  rw [Window.parseTimestamp, Timestamp.read_eq_ok (year_toNat_lt hyear)
    ⟨t.date.month_pos, t.date.month_le⟩ ⟨t.date.day_pos, t.date.day_le⟩ (by omega) (by omega)
    htrim hmoment]
  rfl

end Moment

/-- The text of a window is made of two halves with two dots between them. Each half has sixteen
characters, which are the bytes of a key of the window. Read as timestamps, with any blanks around
them, the halves give the window again, also as the flags of a run with whatever configuration and
on whatever day. -/
theorem window_found_from_text (w : Window) :
    ∃ first last : String, w.text = first ++ ".." ++ last ∧
      first.length = 16 ∧ last.length = 16 ∧
      first.toUTF8.data.toList = w.earliestKey ∧ last.toUTF8.data.toList = w.latestKey ∧
      ∀ before after before' after' : String, IsGap before.toList → IsGap after.toList →
        IsGap before'.toList → IsGap after'.toList →
          Window.parse (before ++ first ++ after) (before' ++ last ++ after') = .ok w ∧
            ∀ (configured : Option Bounds) (today : Date),
              resolveWindow (some (before ++ first ++ after)) (some (before' ++ last ++ after'))
                configured today = .ok w := by
  refine ⟨w.earliest.minuteText, w.latest.minuteText, rfl,
    Moment.length_minuteText w.fourDigitYear_earliest,
    Moment.length_minuteText w.fourDigitYear_latest, ?_, ?_, ?_⟩
  · rw [Moment.bytes_minuteText w.fourDigitYear_earliest, w.earliestKey_eq]
  · rw [Moment.bytes_minuteText w.fourDigitYear_latest, w.latestKey_eq]
  · intro before after before' after' hbefore hafter hbefore' hafter'
    have hparse : Window.parse (before ++ w.earliest.minuteText ++ after)
        (before' ++ w.latest.minuteText ++ after') = .ok w := by
      rw [Window.parse,
        Moment.parseTimestamp_minuteText w.floor_earliest w.fourDigitYear_earliest hbefore hafter,
        Moment.parseTimestamp_minuteText w.floor_latest w.fourDigitYear_latest hbefore' hafter']
      exact w.new_ends
    exact ⟨hparse, fun configured today => hparse⟩

/-- From the leap day of the year 0 on, with blanks of several kinds and a configuration that cannot
be read. -/
theorem window_found_from_text_year_zero :
    ∃ (w : Window) (first last : String),
      w.text = "0000-02-29 00:05..0987-12-31 23:59" ∧ w.text = first ++ ".." ++ last ∧
        IsGap "\u3000 ".toList ∧ IsGap "\t".toList ∧ IsGap "".toList ∧ IsGap "\n\u2028".toList ∧
        Window.parse ("\u3000 " ++ first ++ "\t") ("" ++ last ++ "\n\u2028") = .ok w ∧
        resolveWindow (some ("\u3000 " ++ first ++ "\t")) (some ("" ++ last ++ "\n\u2028"))
          (some ⟨"yesterday", ""⟩) ⟨2011, 10, 17, by decide⟩ = .ok w := by
  let w : Window :=
    ⟨⟨⟨0, 2, 29, by decide⟩, 0, 5, 0, 0, by decide⟩,
      ⟨⟨987, 12, 31, by decide⟩, 23, 59, 0, 0, by decide⟩,
      _, _, rfl, rfl, by decide, by decide, by decide, rfl, rfl⟩
  have hwide : IsGap "\u3000 ".toList := by simp [IsGap, isBlank]
  have htab : IsGap "\t".toList := by simp [IsGap, isBlank]
  have hnone : IsGap "".toList := by simp [IsGap]
  have hlines : IsGap "\n\u2028".toList := by simp [IsGap, isBlank]
  obtain ⟨first, last, htext, -, -, -, -, hread⟩ := window_found_from_text w
  obtain ⟨hparse, hresolve⟩ := hread _ _ _ _ hwide htab hnone hlines
  exact ⟨w, first, last, by decide, htext, hwide, htab, hnone, hlines, hparse, hresolve _ _⟩

end Timetable
