import Mathlib
import Timetable.Proofs.Minutes
import Timetable.Proofs.PaddedNumerals
/-!
# Written moments

Each part of a written moment begins at a place that is known from the parts around it, so that
no two moments are written alike. Years have any number of digits, and a leap second is written
as the second 60.

## Main statements

- `Date.text_injective` — written dates
- `Moment.eq_of_text_eq` — written times of day
- `Moment.isoText_injective` — written moments
-/

namespace Timetable

open Text Calendar

namespace Calendar

/-- A year is written with digits only, or with a sign before its digits. -/
theorem yearText_eq (year : Int) :
    0 ≤ year ∧ yearText year = padded 4 year.natAbs ∨
      ∃ sign, sign.isDigit = false ∧ (sign = '-' ↔ year < 0) ∧ (sign = '-' ∨ sign = '+') ∧
        yearText year = sign :: padded 4 year.natAbs := by
  rw [yearText]
  split
  · rename_i hyear
    have habs : year.toNat = year.natAbs := by omega
    exact .inl ⟨hyear.1, by rw [habs]⟩
  · right
    split
    · rename_i hneg
      exact ⟨'-', rfl, by simp [hneg], .inl rfl, rfl⟩
    · rename_i hneg
      exact ⟨'+', rfl, by simp [hneg], .inr rfl, rfl⟩

theorem yearText_injective : Function.Injective yearText := by
  have hfirst : ∀ {sign : Char} {width n : Nat} {rest : List Char}, sign.isDigit = false →
      sign :: rest ≠ padded width n := by
    intro sign width n rest hsign h
    rw [isDigit_of_mem_padded (h ▸ List.mem_cons_self)] at hsign
    exact absurd hsign (by decide)
  intro year year' h
  rcases yearText_eq year with ⟨hpos, htext⟩ | ⟨sign, hsign, hneg, -, htext⟩ <;>
    rcases yearText_eq year' with ⟨hpos', htext'⟩ | ⟨sign', hsign', hneg', -, htext'⟩ <;>
    rw [htext, htext'] at h
  · have habs := padded_injective h
    omega
  · exact absurd h.symm (hfirst hsign')
  · exact absurd h (hfirst hsign)
  · obtain ⟨rfl, hdigits⟩ := List.cons.inj h
    have habs := padded_injective hdigits
    have hsigns := hneg.symm.trans hneg'
    omega

theorem isDigit_or_sign_of_mem_yearText {year : Int} {c : Char} (h : c ∈ yearText year) :
    c.isDigit = true ∨ c = '-' ∨ c = '+' := by
  rcases yearText_eq year with ⟨-, htext⟩ | ⟨sign, -, -, hsign, htext⟩ <;> rw [htext] at h
  · exact .inl (isDigit_of_mem_padded h)
  · rcases List.mem_cons.1 h with rfl | h
    · exact .inr hsign
    · exact .inl (isDigit_of_mem_padded h)

end Calendar

namespace Date

theorem text_injective : Function.Injective text := by
  intro d e h
  have hday := d.day_le
  have hday' := e.day_le
  have hmonth := d.month_le
  have hmonth' := e.month_le
  obtain ⟨hfront, hdays⟩ := List.append_inj' h (by
    rw [List.length_cons, List.length_cons, length_padded (by decide) (by omega),
      length_padded (by decide) (by omega)])
  obtain ⟨hyears, hmonths⟩ := List.append_inj' hfront (by
    rw [List.length_cons, List.length_cons, length_padded (by decide) (by omega),
      length_padded (by decide) (by omega)])
  apply Date.ext
  · exact yearText_injective hyears
  · exact padded_injective (List.tail_eq_of_cons_eq hmonths)
  · exact padded_injective (List.tail_eq_of_cons_eq hdays)

theorem isDigit_or_sign_of_mem_text {d : Date} {c : Char} (h : c ∈ d.text) :
    c.isDigit = true ∨ c = '-' ∨ c = '+' := by
  simp only [text, List.mem_append, List.mem_cons] at h
  rcases h with (hyear | rfl | hmonth) | rfl | hday
  · exact isDigit_or_sign_of_mem_yearText hyear
  · exact .inr (.inl rfl)
  · exact .inl (isDigit_of_mem_padded hmonth)
  · exact .inr (.inl rfl)
  · exact .inl (isDigit_of_mem_padded hday)

end Date

namespace Moment

/-- A fraction is nothing or a number of equal parts of a second, of which its digits tell the
size. -/
theorem fractionText_eq {nano : Nat} (h : nano < 1000000000) :
    nano = 0 ∧ fractionText nano = [] ∨
      ∃ width n, 0 < width ∧ n < 10 ^ width ∧ nano = n * 10 ^ (9 - width) ∧
        fractionText nano = '.' :: padded width n := by
  rw [fractionText]
  split
  · rename_i hzero
    exact .inl ⟨hzero, rfl⟩
  · split
    · exact .inr ⟨3, nano / 1000000, by decide, by omega, by omega, rfl⟩
    · split
      · exact .inr ⟨6, nano / 1000, by decide, by omega, by omega, rfl⟩
      · exact .inr ⟨9, nano, by decide, by omega, by omega, rfl⟩

theorem eq_of_fractionText_eq {m n : Nat} (hm : m < 1000000000) (hn : n < 1000000000)
    (h : fractionText m = fractionText n) : m = n := by
  rcases fractionText_eq hm with ⟨hmzero, hmtext⟩ | ⟨width, i, hwidth, hi, hmi, hmtext⟩
  · rcases fractionText_eq hn with ⟨hnzero, -⟩ | ⟨width, i, -, -, -, hntext⟩
    · rw [hmzero, hnzero]
    · rw [hmtext, hntext] at h
      exact absurd h (by simp)
  · rcases fractionText_eq hn with ⟨-, hntext⟩ | ⟨width', j, hwidth', hj, hnj, hntext⟩
    · rw [hmtext, hntext] at h
      exact absurd h (by simp)
    · rw [hmtext, hntext] at h
      have hdigits := List.tail_eq_of_cons_eq h
      have hij := padded_injective hdigits
      have hwidths : width = width' := by
        rw [← length_padded hwidth hi, hdigits, length_padded hwidth' hj]
      rw [hmi, hnj, hij, hwidths]

theorem length_clockText (t : Moment) : t.clockText.length = 5 := by
  obtain ⟨hhour, hminute, -⟩ := t.isTimeOfDay
  rw [clockText, List.length_append, List.length_cons, length_padded (by decide) (by omega),
    length_padded (by decide) (by omega)]

/-- Times of day that are written alike are the same, leap seconds included. -/
theorem eq_of_text_eq {t u : Moment} (hdate : t.date.text = u.date.text)
    (htime : t.timeText = u.timeText) : t = u := by
  obtain ⟨hhour, hminute, hsecond, hnano⟩ := t.isTimeOfDay
  obtain ⟨hhour', hminute', hsecond', hnano'⟩ := u.isTimeOfDay
  simp only [timeText, List.append_assoc] at htime
  obtain ⟨hclock, hrest⟩ := List.append_inj htime (by rw [length_clockText, length_clockText])
  obtain ⟨hhours, hminutes⟩ := List.append_inj hclock (by
    rw [length_padded (by decide) (by omega), length_padded (by decide) (by omega)])
  obtain ⟨hseconds, hfraction⟩ := List.append_inj (List.tail_eq_of_cons_eq hrest) (by
    rw [length_padded (by decide) (by omega), length_padded (by decide) (by omega)])
  have hseconds := padded_injective hseconds
  have hfraction := eq_of_fractionText_eq (by omega) (by omega) hfraction
  apply Moment.ext
  · exact Date.text_injective hdate
  · exact padded_injective hhours
  · exact padded_injective (List.tail_eq_of_cons_eq hminutes)
  · omega
  · omega

theorem isoText_injective : Function.Injective isoText := by
  have hT : ∀ (d : Date) (rest : List Char),
      (d.text ++ 'T' :: rest).takeWhile (· != 'T') = d.text := by
    intro d rest
    have hdate : ∀ c ∈ d.text, (c != 'T') = true := by
      rintro c hc
      rcases Date.isDigit_or_sign_of_mem_text hc with hdigit | rfl | rfl
      · exact bne_iff_ne.2 fun heq => absurd (heq ▸ hdigit) (by decide)
      · rfl
      · rfl
    rw [List.takeWhile_append_of_pos hdate, List.takeWhile_cons_of_neg (by decide),
      List.append_nil]
  intro t u h
  have hchars : t.date.text ++ 'T' :: t.timeText = u.date.text ++ 'T' :: u.timeText :=
    String.ofList_injective h
  have hdate : t.date.text = u.date.text := by rw [← hT t.date t.timeText, hchars, hT]
  rw [hdate] at hchars
  exact eq_of_text_eq hdate (List.tail_eq_of_cons_eq (List.append_cancel_left hchars))

end Moment

end Timetable
