import Mathlib
import Timetable.Proofs.KeyOrder
/-!
# What keys tell exactly

Numbers that have room in a key are told from its bytes: the order of the bytes is the order of the
numbers, the year first and the minute last. For this it does not matter whether they are numbers of
a date. Comparing a key with the keys of a window is therefore comparing the minute with its ends,
and the comparison of days lets a day through exactly if the window has a minute of that day.

## Main definitions

- `StampKey.Parts` — the numbers that a key has room for
- `StampKey.Parts.inOrder` — the numbers as a tuple in the lexicographic order

## Main statements

- `StampKey.le_iff` — keys are compared in the lexicographic order of their bytes
- `StampKey.Parts.key_le_key_iff`, `StampKey.Parts.key_inj` — keys are ordered like their numbers
- `Window.admits_key_iff`, `Window.admitsDay_iff` — what the two comparisons with a window tell
- `keys_embed_order` — all of this
-/

namespace Timetable

namespace StampKey

/-! ## Bytes and numbers -/

/-- The first difference decides in the usual order of lists as well. -/
theorem le_iff {s t : List UInt8} : le s t = true ↔ s ≤ t := by
  induction s generalizing t with
  | nil => simp [le]
  | cons a s ih =>
    cases t with
    | nil => simp [le]
    | cons b t =>
      rw [le, List.cons_le_cons_iff, ← ih]
      by_cases h : a = b
      · simp [h]
      · simp [h]

/-- The numbers that a key is made of, each with room for its digits. They need not be those of a
date and a time of day. -/
@[ext]
structure Parts where
  year : Nat
  month : Nat
  day : Nat
  hour : Nat
  minute : Nat
  year_le : year ≤ 9999
  month_le : month ≤ 99
  day_le : day ≤ 99
  hour_le : hour ≤ 99
  minute_le : minute ≤ 99

namespace Parts

variable (p q : Parts)

def key : StampKey :=
  of p.year p.month p.day p.hour p.minute

/-- The numbers as a tuple, of which the first difference decides. -/
def inOrder : Nat ×ₗ Nat ×ₗ Nat ×ₗ Nat ×ₗ Nat :=
  toLex (p.year, toLex (p.month, toLex (p.day, toLex (p.hour, p.minute))))

/-- The digits `YYYYMMDDHHMM` show all of each number. -/
theorem number_mod :
    number (p.year % 10000) (p.month % 100) (p.day % 100) (p.hour % 100) (p.minute % 100) =
      number p.year p.month p.day p.hour p.minute := by
  rw [Nat.mod_eq_of_lt (Nat.lt_succ_of_le p.year_le),
    Nat.mod_eq_of_lt (Nat.lt_succ_of_le p.month_le), Nat.mod_eq_of_lt (Nat.lt_succ_of_le p.day_le),
    Nat.mod_eq_of_lt (Nat.lt_succ_of_le p.hour_le),
    Nat.mod_eq_of_lt (Nat.lt_succ_of_le p.minute_le)]

variable {p q}

/-- Keys are ordered like the tuples of their numbers. -/
theorem key_le_key_iff : p.key ≤ q.key ↔ p.inOrder ≤ q.inOrder := by
  have hmonth := p.month_le
  have hmonth' := q.month_le
  have hday := p.day_le
  have hday' := q.day_le
  have hhour := p.hour_le
  have hhour' := q.hour_le
  have hminute := p.minute_le
  have hminute' := q.minute_le
  rw [← le_iff, key, key, le_of_iff, number_mod, number_mod, number, number]
  simp only [inOrder, Prod.Lex.toLex_le_toLex]
  omega

theorem key_lt_key_iff : p.key < q.key ↔ p.inOrder < q.inOrder := by
  rw [← List.not_le, ← not_le, key_le_key_iff]

/-- Only equal numbers have equal keys, since equal tuples are the same. -/
theorem key_inj : p.key = q.key ↔ p = q := by
  constructor
  · intro hkey
    have hle : p.inOrder ≤ q.inOrder := key_le_key_iff.1 (hkey ▸ List.le_refl p.key)
    have hge : q.inOrder ≤ p.inOrder := key_le_key_iff.1 (hkey ▸ List.le_refl p.key)
    have hsame := le_antisymm hle hge
    simpa only [inOrder, toLex_inj, Prod.mk.injEq, ← Parts.ext_iff] using hsame
  · rintro rfl
    rfl

end Parts

end StampKey

/-! ## Days -/

namespace Date

variable {d : Date}

/-- In the years with four digits a key has all digits of its day. -/
theorem number_eq_inDigits (h : IsFourDigitYear d.year) :
    (((d.year.toNat % 10000 * 100 + d.month % 100) * 100 + d.day % 100 : Nat) : Int) =
      d.inDigits := by
  obtain ⟨hfirst, hlast⟩ := h
  have hmonth := d.month_le
  have hday := d.day_le
  simp only [inDigits]
  omega

end Date

namespace Moment

variable {a b : Moment}

theorem dateDigits_le_of_le (h : a ≤ b) : a.date.inDigits ≤ b.date.inDigits := by
  have hdigits := minuteNumber_le_iff.1 (minuteNumber_le_of_le h)
  by_contra hdate
  have := inDigits_lt_of_date_lt (Int.not_le.1 hdate)
  omega

end Moment

namespace Window

variable (w : Window)

/-! ## Comparing with the keys of a window -/

/-- Only the minute of a moment is in its key. -/
theorem admits_key_iff {t : Moment} (hyear : IsFourDigitYear t.date.year) :
    w.admits t.key = true ↔ w.contains t.floor = true :=
  Bool.eq_iff_iff.1 (w.admits_key (t := t.floor) rfl hyear)

/-- The window has a minute of a day if the day lies between those of its ends. On the first day
the earliest minute is one, and on a later day the first one is. -/
theorem exists_minute_iff {d : Date} :
    (∃ t : Moment, t.date = d ∧ t.floor = t ∧ w.contains t = true) ↔
      w.earliest.date.inDigits ≤ d.inDigits ∧ d.inDigits ≤ w.latest.date.inDigits := by
  constructor
  · rintro ⟨t, rfl, -, hcontains⟩
    obtain ⟨hearliest, hlatest⟩ := w.contains_iff.1 hcontains
    exact ⟨Moment.dateDigits_le_of_le hearliest, Moment.dateDigits_le_of_le hlatest⟩
  · rintro ⟨hearliest, hlatest⟩
    by_cases hfirst : w.earliest.date = d
    · exact ⟨w.earliest, hfirst, w.floor_earliest,
        w.contains_iff.2 ⟨le_refl w.earliest, w.earliest_le_latest⟩⟩
    · refine ⟨.firstOf d, rfl, rfl, w.contains_iff.2 ⟨?_, ?_⟩⟩
      · have hne : w.earliest.date.inDigits ≠ d.inDigits :=
          fun h => hfirst (Date.eq_of_inDigits_eq h)
        rw [Moment.le_iff_inDigits_le w.floor_earliest rfl]
        exact Int.le_of_lt (Moment.inDigits_lt_of_date_lt (lt_of_le_of_ne hearliest hne))
      · rw [Moment.le_iff_inDigits_le rfl w.floor_latest]
        simp only [Moment.inDigits, Moment.firstOf]
        omega

/-- The comparison of days lets the days through of which the window has a minute, whatever hour
and minute stand in the key. -/
theorem admitsDay_iff {d : Date} (h : IsFourDigitYear d.year) (hour minute : Nat) :
    w.admitsDay (StampKey.of d.year.toNat d.month d.day hour minute) = true ↔
      ∃ t : Moment, t.date = d ∧ t.floor = t ∧ w.contains t = true := by
  rw [exists_minute_iff, admitsDay, Bool.and_eq_true, earliestKey_eq, latestKey_eq, Moment.key,
    Moment.key, StampKey.le_day_of_iff, StampKey.le_day_of_iff, ← Int.ofNat_le, ← Int.ofNat_le,
    Date.number_eq_inDigits h, Date.number_eq_inDigits w.fourDigitYear_earliest,
    Date.number_eq_inDigits w.fourDigitYear_latest]

end Window

/-- Keys are compared in the lexicographic order of their bytes. For numbers with room in a key this
is the lexicographic order of the numbers, and different numbers have different keys. So for each
moment of the years 0 to 9999 the comparison of its key with those of a window tells whether the
window contains the moment's minute, and the moment itself if that is the beginning of the minute.
The comparison of days tells whether the window has a minute of a date of these years, whatever
stands for the time of day in the key. -/
theorem keys_embed_order (w : Window) :
    (∀ s t : StampKey, StampKey.le s t = true ↔ s ≤ t) ∧
      (∀ p q : StampKey.Parts, (p.key ≤ q.key ↔ p.inOrder ≤ q.inOrder) ∧
        (p.key < q.key ↔ p.inOrder < q.inOrder) ∧ (p.key = q.key ↔ p = q)) ∧
      (∀ t : Moment, 0 ≤ t.date.year ∧ t.date.year ≤ 9999 →
        (w.admits t.key = true ↔ w.contains t.floor = true) ∧
          (t.second = 0 → t.nano = 0 → (w.admits t.key = true ↔ w.contains t = true))) ∧
      ∀ d : Date, 0 ≤ d.year ∧ d.year ≤ 9999 → ∀ hour minute : Nat,
        (w.admitsDay (StampKey.of d.year.toNat d.month d.day hour minute) = true ↔
          ∃ t : Moment, t.date = d ∧ t.second = 0 ∧ t.nano = 0 ∧ w.contains t = true) := by
  refine ⟨fun s t => StampKey.le_iff, ?_, ?_, ?_⟩
  · exact fun p q =>
      ⟨StampKey.Parts.key_le_key_iff, StampKey.Parts.key_lt_key_iff, StampKey.Parts.key_inj⟩
  · intro t hyear
    refine ⟨w.admits_key_iff hyear, ?_⟩
    intro hsecond hnano
    have hfloor : t.floor = t := Moment.floor_eq_iff.2 ⟨hsecond, hnano⟩
    rw [w.admits_key_iff hyear, hfloor]
  · intro d hyear hour minute
    rw [w.admitsDay_iff hyear]
    simp only [Moment.floor_eq_iff, and_assoc]

/-- The last key of a month that has too many days, hours and minutes, before the first key of the
month after it. A window that begins in the morning and ends with the first minute of the next day:
it has a minute of that day, of which the key of another time tells as well. -/
theorem keys_embed_order_at_edges :
    ∃ (w : Window) (p q : StampKey.Parts) (early late : Moment) (d : Date),
      Window.parse "2011-10-11 06:00" "2011-10-12 00:00" = .ok w ∧
        p.inOrder = toLex (2011, toLex (9, toLex (99, toLex (99, 99)))) ∧
        q.inOrder = toLex (2011, toLex (10, toLex (0, toLex (0, 0)))) ∧ p.key < q.key ∧
        early.isoText = "2011-10-11T05:59:59.999999999" ∧ w.admits early.key = false ∧
        late.isoText = "2011-10-12T00:00:00" ∧ w.admits late.key = true ∧
        d.text = "2011-10-12".toList ∧
        w.admitsDay (StampKey.of 2011 10 12 23 59) = true ∧
        w.admitsDay (StampKey.of 2011 10 10 23 59) = false := by
  let w : Window :=
    ⟨⟨⟨2011, 10, 11, by decide⟩, 6, 0, 0, 0, by decide⟩,
      ⟨⟨2011, 10, 12, by decide⟩, 0, 0, 0, 0, by decide⟩,
      _, _, rfl, rfl, by decide, by decide, by decide, rfl, rfl⟩
  let p : StampKey.Parts :=
    ⟨2011, 9, 99, 99, 99, by decide, by decide, by decide, by decide, by decide⟩
  let q : StampKey.Parts :=
    ⟨2011, 10, 0, 0, 0, by decide, by decide, by decide, by decide, by decide⟩
  let early : Moment := ⟨⟨2011, 10, 11, by decide⟩, 5, 59, 59, 999999999, by decide⟩
  let late : Moment := .firstOf ⟨2011, 10, 12, by decide⟩
  obtain ⟨-, hkeys, hminutes, hdays⟩ := keys_embed_order w
  have hlt : p.inOrder < q.inOrder := by
    simp [StampKey.Parts.inOrder, Prod.Lex.toLex_lt_toLex, p, q]
  have hearly : w.admits early.key = false := by
    rw [Bool.eq_false_iff, Ne, (hminutes early (by decide)).1]
    decide
  have hlate : w.admits late.key = true :=
    ((hminutes late (by decide)).2 rfl rfl).2 (by decide)
  have hday : w.admitsDay (StampKey.of 2011 10 12 23 59) = true :=
    (hdays late.date (by decide) 23 59).2 ⟨late, rfl, rfl, rfl, by decide⟩
  have hbefore : w.admitsDay (StampKey.of 2011 10 10 23 59) = false := by
    rw [Bool.eq_false_iff]
    intro hadmits
    obtain ⟨t, hdate, -, -, hcontains⟩ :=
      (hdays ⟨2011, 10, 10, by decide⟩ (by decide) 23 59).1 hadmits
    have hle := Moment.dateDigits_le_of_le (w.contains_iff.1 hcontains).1
    rw [hdate] at hle
    exact absurd hle (by decide)
  exact ⟨w, p, q, early, late, late.date, rfl, rfl, rfl, (hkeys p q).2.1.2 hlt, by decide, hearly,
    by decide, hlate, by decide, hday, hbefore⟩

end Timetable
