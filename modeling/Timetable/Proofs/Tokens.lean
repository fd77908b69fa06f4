import Mathlib
import Timetable.Schedule
import Timetable.Proofs.Occurrences
/-!
# The grammar of field tokens

A token is understood exactly if it has one of the forms below, and each form stands for
certain values of its column. The forms are told apart by characters that the others do not
hold: a numeral holds digits only, a list holds a comma, a range a dash but no comma, and a
wildcard a star and none of these.

## Main definitions

- `Field.IsNumeral` — the numerals and their values
- `Field.Denotes` — the forms of a token and what they stand for

## Main statements

- `Column.every_eq_filter` — a wildcard stands for the values at whole steps from the first
- `Field.values?_eq_some_iff` — the values found are those the grammar gives
- `parse_iff_denotes` — which tokens a column understands
-/

namespace Timetable

/-- The values from the first of the domain on, in steps of `step`, are those whose distance
from the first is a multiple of it. -/
theorem Column.every_eq_filter (c : Column) {step : Nat} (h : 0 < step) :
    c.every step = (List.Ico c.first (c.last + 1)).filter (step ∣ · - c.first) := by
  have hle : c.first ≤ c.last := by cases c <;> decide
  apply (c.pairwise_every h).eq_of_mem_iff ((List.Ico.pairwise_lt _ _).filter _)
  intro value
  rw [every, List.mem_range', List.mem_filter, List.Ico.mem, decide_eq_true_eq]
  constructor
  · rintro ⟨i, hi, rfl⟩
    have hi : step * i ≤ c.last - c.first := by
      rw [Nat.mul_comm]
      exact (Nat.le_div_iff_mul_le h).1 (Nat.le_of_lt_succ hi)
    refine ⟨by omega, ?_⟩
    rw [Nat.add_sub_cancel_left]
    exact Nat.dvd_mul_right step i
  · rintro ⟨hbounds, i, hi⟩
    refine ⟨i, ?_, by omega⟩
    rw [Nat.lt_succ_iff, Nat.le_div_iff_mul_le h, Nat.mul_comm]
    omega

theorem Column.domain_eq (c : Column) : c.domain = List.Ico c.first (c.last + 1) := by
  rw [domain, c.every_eq_filter Nat.one_pos]
  simp

namespace Field

/-- A text of decimal digits, with any number of zeros in front, whose value has 32 bits. -/
structure IsNumeral (cs : List Char) (n : Nat) : Prop where
  nonempty : cs ≠ []
  digits : ∀ d ∈ cs, d.isDigit = true
  value : Nat.ofDigitChars 10 cs 0 = n
  bound : n < 2 ^ 32

/-- The forms of a token, with the values that each stands for in the column `c`. -/
inductive Denotes (c : Column) : List Char → List Nat → Prop where
  /-- A number. -/
  | number {cs : List Char} {n : Nat} (h : IsNumeral cs n) : Denotes c cs [n]
  /-- Two or more numbers with commas between them, in the order in which they are written. -/
  | list {parts : List (List Char)} {ns : List Nat} (htwo : 2 ≤ parts.length)
    (h : List.Forall₂ IsNumeral parts ns) : Denotes c (List.intercalate [','] parts) ns
  /-- Two numbers that are not too far apart, for all from the first to the last. There are
  none if the last is the smaller one. -/
  | range {first last : List Char} {a b : Nat} (hfirst : IsNumeral first a)
    (hlast : IsNumeral last b) (hspan : b - a ≤ 255) :
    Denotes c (first ++ '-' :: last) (List.Ico a (b + 1))
  /-- A star, for the whole domain. -/
  | all : Denotes c ['*'] (List.Ico c.first (c.last + 1))
  /-- A star with a step, for the values that are whole steps away from the first. -/
  | step {cs : List Char} {n : Nat} (h : IsNumeral cs n) (hpos : 1 ≤ n) :
    Denotes c ('*' :: '/' :: cs)
      ((List.Ico c.first (c.last + 1)).filter (n ∣ · - c.first))

/-! ## Numerals -/

theorem number?_eq_some_iff {cs : List Char} {n : Nat} :
    number? cs = some n ↔ IsNumeral cs n := by
  rw [number?, Option.filter_eq_some_iff, Text.numeral?]
  constructor
  · rintro ⟨hvalue, hbound⟩
    split at hvalue
    · next hdigits =>
      rw [Bool.and_eq_true, Bool.not_eq_true', List.isEmpty_eq_false_iff] at hdigits
      exact ⟨hdigits.1, List.all_eq_true.1 hdigits.2, Option.some.inj hvalue,
        Nat.lt_succ_of_le (of_decide_eq_true hbound)⟩
    · cases hvalue
  · rintro ⟨hnonempty, hdigits, hvalue, hbound⟩
    have hall : (!cs.isEmpty && cs.all Char.isDigit) = true := by
      rw [Bool.and_eq_true, Bool.not_eq_true', List.isEmpty_eq_false_iff]
      exact ⟨hnonempty, List.all_eq_true.2 hdigits⟩
    rw [if_pos hall, hvalue]
    exact ⟨rfl, decide_eq_true (Nat.le_of_lt_succ hbound)⟩

/-- A character that is no digit is not in a numeral. -/
theorem IsNumeral.not_mem {cs : List Char} {n : Nat} (h : IsNumeral cs n) {d : Char}
    (hd : d.isDigit = false) : d ∉ cs := by
  intro hmem
  rw [h.digits d hmem] at hd
  cases hd

theorem number?_eq_none_of_mem {cs : List Char} {d : Char} (hd : d.isDigit = false)
    (hmem : d ∈ cs) : number? cs = none := by
  cases hn : number? cs with
  | none => rfl
  | some n => exact absurd hmem ((number?_eq_some_iff.1 hn).not_mem hd)

/-! ## Lists -/

theorem mapM_eq_some_iff {α β : Type} {f : α → Option β} {as : List α} {bs : List β} :
    as.mapM f = some bs ↔ List.Forall₂ (fun a b => f a = some b) as bs := by
  induction as generalizing bs with
  | nil =>
    rw [List.mapM_nil, List.forall₂_nil_left_iff]
    exact ⟨fun h => (Option.some.inj h).symm, fun h => congrArg some h.symm⟩
  | cons a as ih =>
    rw [List.mapM_cons, List.forall₂_cons_left_iff]
    simp only [Option.bind_eq_bind, Option.bind_eq_some_iff, ih]
    constructor
    · rintro ⟨b, hb, bs, hbs, hcons⟩
      exact ⟨b, bs, hb, hbs, (Option.some.inj hcons).symm⟩
    · rintro ⟨b, bs, hb, hbs, rfl⟩
      exact ⟨b, hb, bs, hbs, rfl⟩

theorem list?_eq_some_iff {cs : List Char} {ns : List Nat} :
    list? cs = some ns ↔ List.Forall₂ IsNumeral (cs.splitOn ',') ns := by
  rw [list?, mapM_eq_some_iff]
  simp only [number?_eq_some_iff]

/-- Cut at its commas, a list gives back its numbers, which hold no comma themselves. -/
theorem splitOn_intercalate_of_numerals {parts : List (List Char)} {ns : List Nat}
    (hne : parts ≠ []) (h : List.Forall₂ IsNumeral parts ns) :
    (List.intercalate [','] parts).splitOn ',' = parts := by
  apply List.splitOn_intercalate ',' _ hne
  intro part hmem
  clear hne
  induction h with
  | nil => exact absurd hmem List.not_mem_nil
  | cons hpart _ ih =>
    rcases List.mem_cons.1 hmem with rfl | hmem
    · exact hpart.not_mem rfl
    · exact ih hmem

theorem mem_intercalate {parts : List (List Char)} (h : 2 ≤ parts.length) (d : Char) :
    d ∈ List.intercalate [d] parts := by
  match parts, h with
  | first :: second :: later, _ => simp

theorem two_le_length_splitOn {cs : List Char} {d : Char} (h : d ∈ cs) :
    2 ≤ (cs.splitOn d).length := by
  obtain ⟨first, later, rfl, hfirst⟩ := List.eq_append_cons_of_mem h
  rw [List.splitOn_append_cons_self_of_not_mem hfirst, List.length_cons]
  exact Nat.succ_le_succ (List.length_pos_iff.2 (List.splitOn_ne_nil d later))

/-! ## Ranges -/

theorem range?_eq_some_iff {first last : List Char} {values : List Nat} :
    range? first last = some values ↔
      ∃ a b, IsNumeral first a ∧ IsNumeral last b ∧ b - a ≤ 255 ∧
        values = List.Ico a (b + 1) := by
  rw [range?]
  simp only [Option.bind_eq_bind, Option.bind_eq_some_iff, number?_eq_some_iff]
  constructor
  · rintro ⟨a, ha, b, hb, hvalues⟩
    split at hvalues
    · next hspan => exact ⟨a, b, ha, hb, hspan, (Option.some.inj hvalues).symm⟩
    · cases hvalues
  · rintro ⟨a, b, ha, hb, hspan, rfl⟩
    exact ⟨a, ha, b, hb, if_pos hspan⟩

/-- A text is cut at its first dash. -/
theorem cut_append_dash {first : List Char} (last : List Char) (h : '-' ∉ first) :
    (first ++ '-' :: last).takeWhile (· ≠ '-') = first ∧
      ((first ++ '-' :: last).dropWhile (· ≠ '-')).tail = last := by
  have hfirst : ∀ d ∈ first, decide (d ≠ '-') = true := by
    intro d hd
    exact decide_eq_true fun hdash => h (hdash ▸ hd)
  rw [List.takeWhile_append_of_pos hfirst, List.dropWhile_append_of_pos hfirst]
  simp

theorem eq_append_dash {cs : List Char} (h : '-' ∈ cs) :
    cs = cs.takeWhile (· ≠ '-') ++ '-' :: (cs.dropWhile (· ≠ '-')).tail := by
  obtain ⟨first, last, rfl, hfirst⟩ := List.eq_append_cons_of_mem h
  obtain ⟨htake, hdrop⟩ := cut_append_dash last hfirst
  rw [htake, hdrop]

/-! ## Wildcards -/

theorem step?_eq_some_iff {cs : List Char} {n : Nat} :
    step? cs = some n ↔
      cs = ['*'] ∧ n = 1 ∨ ∃ digits, cs = '*' :: '/' :: digits ∧ IsNumeral digits n ∧ 1 ≤ n := by
  constructor
  · intro h
    unfold step? at h
    split at h
    · exact .inl ⟨rfl, (Option.some.inj h).symm⟩
    · next digits =>
      rw [Option.filter_eq_some_iff, number?_eq_some_iff] at h
      exact .inr ⟨digits, rfl, h.1, of_decide_eq_true h.2⟩
    · cases h
  · rintro (⟨rfl, rfl⟩ | ⟨digits, rfl, hn, hpos⟩)
    · rfl
    · rw [step?, Option.filter_eq_some_iff, number?_eq_some_iff]
      exact ⟨hn, decide_eq_true hpos⟩

/-! ## All tokens -/

section
variable (c : Column) {cs : List Char} (hn : number? cs = none)

include hn

theorem values?_of_comma (h : ',' ∈ cs) : values? c cs = list? cs := by
  rw [values?, hn]
  exact if_pos h

theorem values?_of_dash (hcomma : ',' ∉ cs) (h : '-' ∈ cs) :
    values? c cs = range? (cs.takeWhile (· ≠ '-')) ((cs.dropWhile (· ≠ '-')).tail) := by
  rw [values?, hn]
  exact (if_neg hcomma).trans (if_pos h)

theorem values?_of_neither (hcomma : ',' ∉ cs) (hdash : '-' ∉ cs) :
    values? c cs = (step? cs).map c.every := by
  rw [values?, hn]
  exact (if_neg hcomma).trans (if_neg hdash)

end

/-- A token of one of the forms reaches the branch for this form, since it holds none of the
characters that lead to an earlier one. -/
theorem values?_of_denotes {c : Column} {cs : List Char} {values : List Nat}
    (h : Denotes c cs values) : values? c cs = some values := by
  cases h with
  | number hn => rw [values?, number?_eq_some_iff.2 hn]
  | @list parts ns htwo hparts =>
    have hcomma := mem_intercalate htwo ','
    have hne : parts ≠ [] := by
      rintro rfl
      cases htwo
    rw [values?_of_comma c (number?_eq_none_of_mem rfl hcomma) hcomma, list?_eq_some_iff,
      splitOn_intercalate_of_numerals hne hparts]
    exact hparts
  | @range first last a b hfirst hlast hspan =>
    have hcomma : ',' ∉ first ++ '-' :: last := by
      simp [hfirst.not_mem (d := ',') rfl, hlast.not_mem (d := ',') rfl]
    have hdash : '-' ∈ first ++ '-' :: last :=
      List.mem_append_right first List.mem_cons_self
    obtain ⟨htake, hdrop⟩ := cut_append_dash last (hfirst.not_mem rfl)
    rw [values?_of_dash c (number?_eq_none_of_mem rfl hdash) hcomma hdash, htake, hdrop,
      range?_eq_some_iff]
    exact ⟨a, b, hfirst, hlast, hspan, rfl⟩
  | all =>
    rw [values?_of_neither c rfl (by decide) (by decide), step?, Option.map_some, ← c.domain_eq]
    rfl
  | @step digits n hn hpos =>
    have hcomma : ',' ∉ '*' :: '/' :: digits := by simp [hn.not_mem (d := ',') rfl]
    have hdash : '-' ∉ '*' :: '/' :: digits := by simp [hn.not_mem (d := '-') rfl]
    have hstep : step? ('*' :: '/' :: digits) = some n :=
      step?_eq_some_iff.2 (.inr ⟨digits, rfl, hn, hpos⟩)
    rw [values?_of_neither c (number?_eq_none_of_mem rfl List.mem_cons_self) hcomma hdash, hstep,
      Option.map_some, c.every_eq_filter hpos]

theorem denotes_of_values? {c : Column} {cs : List Char} {values : List Nat}
    (h : values? c cs = some values) : Denotes c cs values := by
  cases hn : number? cs with
  | some n =>
    rw [values?, hn] at h
    cases h
    exact .number (number?_eq_some_iff.1 hn)
  | none =>
    by_cases hcomma : ',' ∈ cs
    · rw [values?_of_comma c hn hcomma, list?_eq_some_iff] at h
      have hparts : List.intercalate [','] (cs.splitOn ',') = cs := List.intercalate_splitOn ','
      rw [← hparts]
      exact .list (two_le_length_splitOn hcomma) h
    · by_cases hdash : '-' ∈ cs
      · rw [values?_of_dash c hn hcomma hdash, range?_eq_some_iff] at h
        obtain ⟨a, b, ha, hb, hspan, rfl⟩ := h
        rw [eq_append_dash hdash]
        exact .range ha hb hspan
      · rw [values?_of_neither c hn hcomma hdash, Option.map_eq_some_iff] at h
        obtain ⟨n, hstep, rfl⟩ := h
        obtain ⟨rfl, rfl⟩ | ⟨digits, rfl, hdigits, hpos⟩ := step?_eq_some_iff.1 hstep
        · show Denotes c ['*'] c.domain
          rw [c.domain_eq]
          exact .all
        · rw [c.every_eq_filter hpos]
          exact .step hdigits hpos

theorem values?_eq_some_iff {c : Column} {cs : List Char} {values : List Nat} :
    values? c cs = some values ↔ Denotes c cs values :=
  ⟨denotes_of_values?, values?_of_denotes⟩

/-- Only a list can be long. -/
theorem Denotes.length_le {c : Column} {cs : List Char} {values : List Nat}
    (h : Denotes c cs values) (hcomma : ',' ∉ cs) : values.length ≤ 256 := by
  have hdomain : (List.Ico c.first (c.last + 1)).length ≤ 256 := by
    rw [List.Ico.length]
    cases c <;> decide
  cases h with
  | number hn => simp
  | list htwo hparts => exact absurd (mem_intercalate htwo ',') hcomma
  | range hfirst hlast hspan =>
    rw [List.Ico.length]
    omega
  | all => exact hdomain
  | step hn hpos => exact (List.length_filter_le _ _).trans hdomain

end Field

/-- A column understands the tokens of the grammar and no others, and finds the values that the
grammar gives them. Every other token is an error that names the column and the token. So no
wildcard has a step of zero, and only a list stands for more than 256 values. -/
theorem parse_iff_denotes (c : Column) (token : String) :
    (∀ field, Field.parse c token = .ok field ↔ Field.Denotes c token.toList field.values) ∧
      (∀ failure, Field.parse c token = .error failure ↔
        failure = .invalidToken c token ∧ ¬∃ values, Field.Denotes c token.toList values) ∧
      Field.step? token.toList ≠ some 0 ∧
      ∀ field, Field.parse c token = .ok field → ',' ∉ token.toList →
        field.values.length ≤ 256 := by
  have hok : ∀ field, Field.parse c token = .ok field ↔
      Field.Denotes c token.toList field.values := by
    intro field
    rw [Field.parse, ← Field.values?_eq_some_iff]
    cases Field.values? c token.toList with
    | some values =>
      obtain ⟨listed⟩ := field
      simp
    | none => simp
  refine ⟨hok, ?_, ?_, ?_⟩
  · intro failure
    simp only [Field.parse, ← Field.values?_eq_some_iff]
    cases Field.values? c token.toList with
    | some values => simp
    | none => simp [eq_comm]
  · intro hzero
    obtain ⟨-, hone⟩ | ⟨digits, -, -, hpos⟩ := Field.step?_eq_some_iff.1 hzero
    · cases hone
    · cases hpos
  · intro field hfield hcomma
    exact ((hok field).1 hfield).length_le hcomma

/-- The widest range, at the end of what a numeral can be. -/
theorem parse_iff_denotes_widest_range :
    ∃ field : Field .minute,
      Field.parse .minute "4294967040-4294967295" = .ok field ∧
        field.values = List.Ico 4294967040 4294967296 ∧
        ',' ∉ "4294967040-4294967295".toList ∧ field.values.length ≤ 256 := by
  have hfirst : Field.IsNumeral "4294967040".toList 4294967040 :=
    Field.number?_eq_some_iff.1 (by cbv)
  have hlast : Field.IsNumeral "4294967295".toList 4294967295 :=
    Field.number?_eq_some_iff.1 (by cbv)
  have hcomma : ',' ∉ "4294967040-4294967295".toList := by decide
  have htoken : "4294967040-4294967295".toList =
      "4294967040".toList ++ '-' :: "4294967295".toList := by decide
  obtain ⟨hok, -, -, hlength⟩ := parse_iff_denotes .minute "4294967040-4294967295"
  have hdenotes : Field.Denotes .minute "4294967040-4294967295".toList
      (List.Ico 4294967040 (4294967295 + 1)) := by
    rw [htoken]
    exact .range hfirst hlast (by decide)
  have hparse := (hok ⟨List.Ico 4294967040 4294967296⟩).2 hdenotes
  exact ⟨_, hparse, rfl, hcomma, hlength _ hparse hcomma⟩

end Timetable
