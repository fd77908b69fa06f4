import Mathlib
import Timetable.Proofs.Chronology
/-!
# The first and the last occurrence

Where a list of a schedule repeats a value, the minutes of its first copy are followed by those of
the second one, so that the occurrences are not in the order of time any more. Their first and
their last are still the earliest and the latest. An earlier minute than the first one would differ
from it in one part before all others, and a copy of it with the smaller part would have come
before.

This argument looks for minutes that fire, and passes over blocks in which there are none. It is
therefore made for lists in which anything may be looked for: the first hit is the least one.

## Main definitions

- `FindsFirst` — the first hit is the least one, whatever is looked for
- `FindsEnds` — the same from both ends of a list
- `Schedule.NonDecreasing` — the lists of all columns but the weekday ascend, with repetitions

## Main statements

- `FindsEnds.flatMap` — blocks that are in order
- `Schedule.NonDecreasing.isLeast_head` — the first occurrence is the earliest
- `Schedule.NonDecreasing.isGreatest_last` — the last occurrence is the latest
-/

namespace Timetable

/-! ## Hits in lists -/

section
variable {α β : Type} {r : α → α → Prop} {r' : β → β → Prop}

/-- Whatever is looked for in the list, the first hit is in the relation `r` to all hits. -/
def FindsFirst (r : α → α → Prop) (l : List α) : Prop :=
  ∀ (p : α → Bool) (a b : α), l.find? p = some a → b ∈ l → p b = true → r a b

/-- Whatever is looked for, the first hit is least and the last hit is greatest. -/
structure FindsEnds (r : α → α → Prop) (l : List α) : Prop where
  first : FindsFirst r l
  last : FindsFirst (fun a b => r b a) l.reverse

theorem FindsFirst.of_pairwise {l : List α} (hrefl : ∀ a, r a a) (h : l.Pairwise r) :
    FindsFirst r l := by
  intro p a b ha hb hpb
  obtain ⟨-, before, after, rfl, hbefore⟩ := List.find?_eq_some_iff_append.1 ha
  rcases List.mem_append.1 hb with hb | hb
  · -- Nothing before the first hit is a hit.
    have hmiss := hbefore b hb
    rw [hpb] at hmiss
    cases hmiss
  · rcases List.mem_cons.1 hb with rfl | hb
    · exact hrefl b
    · exact (List.pairwise_cons.1 (List.pairwise_append.1 h).2.1).1 b hb

/-- Blocks keep what they have if elements that are in order have blocks in order. What is looked
for in all blocks is the first hit of the first block that has one. -/
theorem FindsFirst.flatMap {l : List α} {f : α → List β} (h : FindsFirst r l)
    (hf : ∀ x, FindsFirst r' (f x))
    (hblocks : ∀ x y, r x y → x = y ∨ ∀ a ∈ f x, ∀ b ∈ f y, r' a b) :
    FindsFirst r' (l.flatMap f) := by
  intro p a b ha hb hpb
  rw [List.find?_flatMap, List.findSome?_eq_some_iff] at ha
  obtain ⟨before, x, after, rfl, hx, hbefore⟩ := ha
  obtain ⟨y, hy, hb⟩ := List.mem_flatMap.1 hb
  have hyhit : ((f y).find? p).isSome = true := List.find?_isSome.2 ⟨b, hb, hpb⟩
  have hfirst : (before ++ x :: after).find? (fun z => ((f z).find? p).isSome) = some x := by
    rw [List.find?_eq_some_iff_append]
    refine ⟨by rw [hx]; rfl, before, after, rfl, ?_⟩
    intro z hz
    rw [hbefore z hz]
    rfl
  have hxy : r x y := h _ x y hfirst hy hyhit
  rcases hblocks x y hxy with rfl | hab
  · exact hf x p a b hx hb hpb
  · exact hab a (List.mem_of_find?_eq_some hx) b hb

theorem FindsEnds.of_pairwise {l : List α} (hrefl : ∀ a, r a a) (h : l.Pairwise r) :
    FindsEnds r l :=
  ⟨.of_pairwise hrefl h, .of_pairwise hrefl (List.pairwise_reverse.2 h)⟩

theorem FindsEnds.flatMap {l : List α} {f : α → List β} (h : FindsEnds r l)
    (hf : ∀ x, FindsEnds r' (f x))
    (hblocks : ∀ x y, r x y → x = y ∨ ∀ a ∈ f x, ∀ b ∈ f y, r' a b) :
    FindsEnds r' (l.flatMap f) := by
  refine ⟨h.first.flatMap (fun x => (hf x).first) hblocks, ?_⟩
  -- Read backwards, the blocks are the other way round, and so is each of them.
  rw [List.reverse_flatMap]
  apply h.last.flatMap fun x => (hf x).last
  intro x y hyx
  rcases hblocks y x hyx with hsame | hba
  · exact .inl hsame.symm
  · refine .inr fun a ha b hb => hba b ?_ a ?_
    · exact List.mem_reverse.1 hb
    · exact List.mem_reverse.1 ha

theorem FindsEnds.head_filter {l : List α} (h : FindsEnds r l) {p : α → Bool} {a b : α}
    (ha : (l.filter p).head? = some a) (hb : b ∈ l.filter p) : r a b := by
  rw [List.head?_filter] at ha
  obtain ⟨hmem, hhit⟩ := List.mem_filter.1 hb
  exact h.first p a b ha hmem hhit

theorem FindsEnds.last_filter {l : List α} (h : FindsEnds r l) {p : α → Bool} {a b : α}
    (ha : (l.filter p).getLast? = some a) (hb : b ∈ l.filter p) : r b a := by
  rw [List.getLast?_eq_head?_reverse, ← List.filter_reverse, List.head?_filter] at ha
  obtain ⟨hmem, hhit⟩ := List.mem_filter.1 hb
  exact h.last p a b ha (List.mem_reverse.2 hmem) hhit

end

/-! ## Schedules with repetitions -/

namespace Schedule

/-- The months, days, hours and minutes are listed in ascending order, some maybe repeatedly. -/
structure NonDecreasing (s : Schedule) : Prop where
  month : s.month.values.Pairwise (· ≤ ·)
  day : s.day.values.Pairwise (· ≤ ·)
  hour : s.hour.values.Pairwise (· ≤ ·)
  minute : s.minute.values.Pairwise (· ≤ ·)

theorem Ascending.nonDecreasing {s : Schedule} (h : s.Ascending) : s.NonDecreasing where
  month := h.month.imp Nat.le_of_lt
  day := h.day.imp Nat.le_of_lt
  hour := h.hour.imp Nat.le_of_lt
  minute := h.minute.imp Nat.le_of_lt

namespace NonDecreasing

variable {s : Schedule} (h : s.NonDecreasing)

include h

theorem findsEnds_datesIn (year : Int) :
    FindsEnds (fun a b => a.inDigits ≤ b.inDigits) (s.datesIn year) := by
  apply (FindsEnds.of_pairwise Nat.le_refl h.month).flatMap
  · intro month
    apply FindsEnds.of_pairwise fun a => Int.le_refl a.inDigits
    rw [List.pairwise_filterMap]
    apply h.day.imp
    intro day day' hle a ha b hb
    rw [Date.inDigits_of? ha, Date.inDigits_of? hb]
    omega
  · intro month month' hle
    rcases Nat.eq_or_lt_of_le hle with hsame | hlt
    · exact .inl hsame
    · exact .inr fun a ha b hb => Int.le_of_lt (lt_of_month_lt hlt ha hb)

theorem findsEnds_momentsOn (date : Date) :
    FindsEnds (fun a b => a.inDigits ≤ b.inDigits) (s.momentsOn date) := by
  apply (FindsEnds.of_pairwise Nat.le_refl h.hour).flatMap
  · intro hour
    apply FindsEnds.of_pairwise fun a => Int.le_refl a.inDigits
    rw [List.pairwise_filterMap]
    apply h.minute.imp
    intro minute minute' hle a ha b hb
    rw [Moment.inDigits_ofMinute? ha, Moment.inDigits_ofMinute? hb]
    omega
  · intro hour hour' hle
    rcases Nat.eq_or_lt_of_le hle with hsame | hlt
    · exact .inl hsame
    · exact .inr fun a ha b hb => Int.le_of_lt (lt_of_hour_lt hlt ha hb)

/-- In the candidates of ascending years copies of a month, a day or an hour may come after later
ones, but never before them. -/
theorem findsEnds_candidates {years : List Int} (hyears : years.Pairwise (· < ·)) :
    FindsEnds (fun a b => a.inDigits ≤ b.inDigits) (s.candidates years) := by
  have hyears : FindsEnds (· ≤ ·) years :=
    .of_pairwise Int.le_refl (hyears.imp Int.le_of_lt)
  apply hyears.flatMap
  · intro year
    apply (h.findsEnds_datesIn year).flatMap h.findsEnds_momentsOn
    intro date date' hle
    rcases Int.lt_or_eq_of_le hle with hlt | hsame
    · exact .inr fun a ha b hb => Int.le_of_lt (lt_of_date_lt hlt ha hb)
    · exact .inl (Date.eq_of_inDigits_eq hsame)
  · intro year year' hle
    rcases Int.lt_or_eq_of_le hle with hlt | hsame
    · exact .inr fun a ha b hb => Int.le_of_lt (lt_of_year_lt hlt ha hb)
    · exact .inl hsame

theorem isLeast_head {w : Window} {first : Moment}
    (hfirst : (occurrences s w).head? = some first) :
    IsLeast {t | t ∈ occurrences s w} first := by
  have hmem := List.mem_of_head? hfirst
  refine ⟨hmem, fun t (ht : t ∈ occurrences s w) => ?_⟩
  rw [Moment.le_iff_inDigits_le (mem_occurrences.1 hmem).1 (mem_occurrences.1 ht).1]
  rw [occurrences_eq_filter] at hfirst ht
  exact (h.findsEnds_candidates w.pairwise_years).head_filter hfirst ht

theorem isGreatest_last {w : Window} {last : Moment}
    (hlast : (occurrences s w).getLast? = some last) :
    IsGreatest {t | t ∈ occurrences s w} last := by
  have hmem := List.mem_of_getLast? hlast
  refine ⟨hmem, fun t (ht : t ∈ occurrences s w) => ?_⟩
  rw [Moment.le_iff_inDigits_le (mem_occurrences.1 ht).1 (mem_occurrences.1 hmem).1]
  rw [occurrences_eq_filter] at hlast ht
  exact (h.findsEnds_candidates w.pairwise_years).last_filter hlast ht

end NonDecreasing

end Schedule

end Timetable
