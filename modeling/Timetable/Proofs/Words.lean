import Mathlib
import Timetable.Text.Blank
/-!
# The words of a text

The words of a text are its maximal runs of characters that are not blank. Taking words from
the front of a text takes them in order, leaves what follows the last one as it is, and does
not depend on how many blanks stand before or between them.

## Main definitions

- `Text.IsGap`, `Text.IsWord` — a run of blanks, and one of other characters
- `Text.BeginsWith` — the first words of a text and what follows them
- `Text.HasWords` — all words of a text
- `Text.IsTrimmed` — a text without the blanks at its ends

## Main statements

- `Text.takeWords_add` — taking the words that a text begins with, and then others
- `Text.hasWords_iff` — the words found are the maximal runs
- `Text.isTrimmed_iff` — trimming takes away the blanks at both ends and nothing else
-/

namespace Timetable.Text

/-- Blanks only, or nothing. -/
def IsGap (cs : List Char) : Prop :=
  ∀ c ∈ cs, isBlank c = true

/-- At least one character, and no blanks. -/
structure IsWord (cs : List Char) : Prop where
  nonempty : cs ≠ []
  solid : ∀ c ∈ cs, isBlank c = false

/-- The text begins with these words, with blanks before and between them, and goes on with
`rest`. Each word reaches up to a blank or to the end of the text. -/
inductive BeginsWith : List Char → List (List Char) → List Char → Prop where
  | nil (rest : List Char) : BeginsWith rest [] rest
  | cons {gap word text rest : List Char} {words : List (List Char)} (hgap : IsGap gap)
    (hword : IsWord word) (hend : ∀ c ∈ text.head?, isBlank c = true)
    (h : BeginsWith text words rest) : BeginsWith (gap ++ word ++ text) (word :: words) rest

/-- These are all words of the text. -/
def HasWords (cs : List Char) (words : List (List Char)) : Prop :=
  ∃ rest, BeginsWith cs words rest ∧ IsGap rest

/-- The text `inner` is what remains of the other without the blanks at its ends. -/
structure IsTrimmed (cs inner : List Char) : Prop where
  exists_gaps : ∃ before after, cs = before ++ inner ++ after ∧ IsGap before ∧ IsGap after
  head : ∀ c ∈ inner.head?, isBlank c = false
  last : ∀ c ∈ inner.getLast?, isBlank c = false

/-! ## Trimming -/

theorem isBlank_of_isDigit {c : Char} (h : c.isDigit = true) : isBlank c = false := by
  rw [Char.isDigit, Bool.and_eq_true, decide_eq_true_iff, decide_eq_true_iff] at h
  have hfirst : 48 ≤ c.toNat := h.1
  have hlast : c.toNat ≤ 57 := h.2
  simp [isBlank]
  omega

theorem IsGap.reverse {gap : List Char} (h : IsGap gap) : IsGap gap.reverse := by
  intro c hc
  exact h c (List.mem_reverse.1 hc)

theorem trimStart_gap_append {gap : List Char} (h : IsGap gap) (cs : List Char) :
    trimStart (gap ++ cs) = trimStart cs :=
  List.dropWhile_append_of_pos h

theorem trimStart_gap {gap : List Char} (h : IsGap gap) : trimStart gap = [] :=
  List.dropWhile_eq_nil_iff.2 h

theorem trimStart_of_head {cs : List Char} (h : ∀ c ∈ cs.head?, isBlank c = false) :
    trimStart cs = cs := by
  cases cs with
  | nil => rfl
  | cons c cs => rw [trimStart, List.dropWhile_cons_of_neg (by simp [h c rfl])]

/-- The blanks at the front, and the text without them. -/
theorem exists_eq_gap_append (cs : List Char) :
    ∃ gap, IsGap gap ∧ cs = gap ++ trimStart cs ∧
      ∀ c ∈ (trimStart cs).head?, isBlank c = false := by
  refine ⟨cs.takeWhile isBlank, fun c hc => List.mem_takeWhile_imp hc,
    List.takeWhile_append_dropWhile.symm, ?_⟩
  intro c hc
  have hhead := List.head?_dropWhile_not isBlank cs
  rw [trimStart] at hc
  rw [Option.mem_def.1 hc] at hhead
  exact hhead

theorem trimEnd_append_gap {gap : List Char} (h : IsGap gap) (cs : List Char) :
    trimEnd (cs ++ gap) = trimEnd cs := by
  rw [trimEnd, List.reverse_append, trimStart_gap_append h.reverse, trimEnd]

theorem trimEnd_of_last {cs : List Char} (h : ∀ c ∈ cs.getLast?, isBlank c = false) :
    trimEnd cs = cs := by
  rw [trimEnd, trimStart_of_head, List.reverse_reverse]
  rwa [List.head?_reverse]

theorem trim_gap_append {gap : List Char} (h : IsGap gap) (cs : List Char) :
    trim (gap ++ cs) = trim cs := by
  rw [trim, trimStart_gap_append h, trim]

theorem trim_append_gap {gap : List Char} (h : IsGap gap) (cs : List Char) :
    trim (cs ++ gap) = trim cs := by
  obtain ⟨before, hbefore, hcs, hhead⟩ := exists_eq_gap_append cs
  rw [hcs, List.append_assoc, trim_gap_append hbefore, trim_gap_append hbefore]
  cases htext : trimStart cs with
  | nil =>
    rw [List.nil_append, trim, trimStart_gap h]
    rfl
  | cons c text =>
    rw [htext] at hhead
    rw [trim, trim, trimStart_of_head hhead, trimStart_of_head, trimEnd_append_gap h]
    exact hhead

theorem isTrimmed_trim (cs : List Char) : IsTrimmed cs (trim cs) := by
  obtain ⟨before, hbefore, hcs, hhead⟩ := exists_eq_gap_append cs
  obtain ⟨after, hafter, htext, hlast⟩ := exists_eq_gap_append (trimStart cs).reverse
  have hinner : trimStart cs = trim cs ++ after.reverse := by
    rw [← List.reverse_reverse (trimStart cs), htext, List.reverse_append]
    rfl
  refine ⟨⟨before, after.reverse, ?_, hbefore, hafter.reverse⟩, ?_, ?_⟩
  · rw [List.append_assoc, ← hinner]
    exact hcs
  · intro c hc
    apply hhead c
    rw [hinner, List.head?_append, Option.mem_def.1 hc]
    rfl
  · intro c hc
    apply hlast c
    rwa [trim, trimEnd, List.getLast?_reverse] at hc

theorem isTrimmed_iff {cs inner : List Char} : IsTrimmed cs inner ↔ trim cs = inner := by
  constructor
  · rintro ⟨⟨before, after, rfl, hbefore, hafter⟩, hhead, hlast⟩
    rw [trim_append_gap hafter, trim_gap_append hbefore, trim, trimStart_of_head hhead,
      trimEnd_of_last hlast]
  · rintro rfl
    exact isTrimmed_trim cs

/-! ## Taking words -/

/-- A word is cut off where the next blank or the end of the text is. -/
theorem IsWord.cut {word text : List Char} (h : IsWord word)
    (hend : ∀ c ∈ text.head?, isBlank c = true) :
    (word ++ text).takeWhile (!isBlank ·) = word ∧
      (word ++ text).dropWhile (!isBlank ·) = text := by
  have hsolid : ∀ c ∈ word, (!isBlank c) = true := by
    intro c hc
    rw [h.solid c hc]
    rfl
  rw [List.takeWhile_append_of_pos hsolid, List.dropWhile_append_of_pos hsolid]
  cases text with
  | nil => simp
  | cons c text => simp [hend c rfl]

theorem takeWords_gap {gap : List Char} (h : IsGap gap) (n : Nat) :
    takeWords (n + 1) gap = ([], []) := by
  rw [takeWords, trimStart_gap h]

theorem takeWords_gap_append {gap : List Char} (h : IsGap gap) (n : Nat) (cs : List Char) :
    takeWords (n + 1) (gap ++ cs) = takeWords (n + 1) cs := by
  rw [takeWords, trimStart_gap_append h, takeWords]

/-- The first word is taken without the gap in front of it. -/
theorem takeWords_cons {gap word text : List Char} (hgap : IsGap gap) (hword : IsWord word)
    (hend : ∀ c ∈ text.head?, isBlank c = true) (n : Nat) :
    takeWords (n + 1) (gap ++ word ++ text) =
      (word :: (takeWords n text).1, (takeWords n text).2) := by
  obtain ⟨htake, hdrop⟩ := hword.cut hend
  have hstart : trimStart (gap ++ word ++ text) = word ++ text := by
    rw [List.append_assoc, trimStart_gap_append hgap]
    apply trimStart_of_head
    intro c hc
    rw [List.head?_append_of_ne_nil _ hword.nonempty] at hc
    exact hword.solid c (List.mem_of_head? hc)
  rw [takeWords, hstart]
  cases hcs : word ++ text with
  | nil => exact absurd (List.append_eq_nil_iff.1 hcs).1 hword.nonempty
  | cons c cs =>
    rw [hcs] at htake hdrop
    simp only [htake, hdrop]

/-- The words that a text begins with are taken first, and further ones from what follows. -/
theorem takeWords_add {cs rest : List Char} {words : List (List Char)}
    (h : BeginsWith cs words rest) (n : Nat) :
    takeWords (words.length + n) cs =
      (words ++ (takeWords n rest).1, (takeWords n rest).2) := by
  induction h with
  | nil rest => rw [List.length_nil, Nat.zero_add, List.nil_append]
  | cons hgap hword hend _ ih =>
    rw [List.length_cons, Nat.add_right_comm, takeWords_cons hgap hword hend, ih]
    rfl

/-! ## All words -/

theorem words_append_blank {c : Char} (h : isBlank c = true) (front back : List Char) :
    words (front ++ c :: back) = words front ++ words back := by
  rw [words, List.splitOnP_append_cons front back h, List.filter_append]
  rfl

theorem words_gap_append {gap : List Char} (h : IsGap gap) (cs : List Char) :
    words (gap ++ cs) = words cs := by
  induction gap with
  | nil => rfl
  | cons c gap ih =>
    have hrest : IsGap gap := fun d hd => h d (List.mem_cons_of_mem c hd)
    have hfirst := words_append_blank (h c List.mem_cons_self) [] (gap ++ cs)
    rw [List.nil_append] at hfirst
    rw [List.cons_append, hfirst, ih hrest]
    rfl

theorem words_gap {gap : List Char} (h : IsGap gap) : words gap = [] := by
  rw [← List.append_nil gap, words_gap_append h]
  rfl

theorem words_cons {gap word text : List Char} (hgap : IsGap gap) (hword : IsWord word)
    (hend : ∀ c ∈ text.head?, isBlank c = true) :
    words (gap ++ word ++ text) = word :: words text := by
  have hfirst : words word = [word] := by
    rw [words, List.splitOnP_eq_singleton hword.solid]
    simp [hword.nonempty]
  rw [List.append_assoc, words_gap_append hgap]
  cases text with
  | nil =>
    rw [List.append_nil, hfirst]
    rfl
  | cons c text =>
    have hblank := words_append_blank (hend c rfl)
    have htext := hblank [] text
    rw [List.nil_append] at htext
    rw [hblank, htext, hfirst]
    rfl

theorem BeginsWith.words_eq {cs rest : List Char} {ws : List (List Char)}
    (h : BeginsWith cs ws rest) : words cs = ws ++ words rest := by
  induction h with
  | nil rest => rfl
  | cons hgap hword hend _ ih => rw [words_cons hgap hword hend, ih, List.cons_append]

/-- A text is a gap, or its first word stands between a gap and the rest. -/
theorem isGap_or_exists_word (cs : List Char) :
    IsGap cs ∨ ∃ gap word text, cs = gap ++ word ++ text ∧ IsGap gap ∧ IsWord word ∧
      ∀ c ∈ text.head?, isBlank c = true := by
  obtain ⟨gap, hgap, hcs, hhead⟩ := exists_eq_gap_append cs
  cases hstart : trimStart cs with
  | nil =>
    rw [hstart, List.append_nil] at hcs
    exact .inl (hcs ▸ hgap)
  | cons c later =>
    rw [hstart] at hcs hhead
    refine .inr ⟨gap, (c :: later).takeWhile (!isBlank ·), (c :: later).dropWhile (!isBlank ·),
      ?_, hgap, ⟨?_, ?_⟩, ?_⟩
    · rw [List.append_assoc, List.takeWhile_append_dropWhile]
      exact hcs
    · simp [hhead c rfl]
    · intro d hd
      simpa using List.mem_takeWhile_imp hd
    · intro d hd
      have hdrop := List.head?_dropWhile_not (!isBlank ·) (c :: later)
      rw [Option.mem_def.1 hd] at hdrop
      simpa using hdrop

/-- Every text is made of words and blanks. -/
theorem exists_hasWords (cs : List Char) : ∃ ws, HasWords cs ws := by
  induction hn : cs.length using Nat.strong_induction_on generalizing cs with
  | h n ih =>
    obtain hgap | ⟨gap, word, text, rfl, hgap, hword, hend⟩ := isGap_or_exists_word cs
    · exact ⟨[], cs, .nil cs, hgap⟩
    · have hpos := List.length_pos_iff.2 hword.nonempty
      rw [List.length_append, List.length_append] at hn
      obtain ⟨ws, rest, hbegins, hrest⟩ := ih text.length (by omega) text rfl
      exact ⟨word :: ws, rest, .cons hgap hword hend hbegins, hrest⟩

theorem hasWords_iff {cs : List Char} {ws : List (List Char)} :
    HasWords cs ws ↔ words cs = ws := by
  have hwords : ∀ {ws}, HasWords cs ws → words cs = ws := by
    rintro ws ⟨rest, hbegins, hgap⟩
    rw [hbegins.words_eq, words_gap hgap, List.append_nil]
  constructor
  · exact hwords
  · rintro rfl
    obtain ⟨ws, hws⟩ := exists_hasWords cs
    rwa [hwords hws]

theorem takeWords_fst (n : Nat) (cs : List Char) : (takeWords n cs).1 = (words cs).take n := by
  induction n generalizing cs with
  | zero => rfl
  | succ n ih =>
    obtain hgap | ⟨gap, word, text, rfl, hgap, hword, hend⟩ := isGap_or_exists_word cs
    · rw [takeWords_gap hgap, words_gap hgap]
      rfl
    · rw [takeWords_cons hgap hword hend, words_cons hgap hword hend, List.take_succ_cons, ih]

/-- If there are enough words, the text begins with those that are taken. -/
theorem beginsWith_takeWords {n : Nat} {cs : List Char} (h : n ≤ (words cs).length) :
    BeginsWith cs ((words cs).take n) (takeWords n cs).2 := by
  induction n generalizing cs with
  | zero => exact .nil cs
  | succ n ih =>
    obtain hgap | ⟨gap, word, text, rfl, hgap, hword, hend⟩ := isGap_or_exists_word cs
    · rw [words_gap hgap] at h
      cases h
    · rw [words_cons hgap hword hend, List.length_cons, Nat.add_le_add_iff_right] at h
      rw [words_cons hgap hword hend, takeWords_cons hgap hword hend, List.take_succ_cons]
      exact .cons hgap hword hend (ih h)

/-! ## Other blanks -/

/-- Nothing changes for the words if a text goes on with a blank after them. -/
theorem BeginsWith.append {cs rest : List Char} {ws : List (List Char)}
    (h : BeginsWith cs ws rest) {text : List Char} (hblank : ∀ c ∈ text.head?, isBlank c = true) :
    BeginsWith (cs ++ text) ws (rest ++ text) := by
  induction h with
  | nil rest => exact .nil (rest ++ text)
  | @cons gap word front rest ws hgap hword hend _ ih =>
    rw [List.append_assoc]
    refine .cons hgap hword ?_ ih
    intro c hc
    cases front with
    | nil => exact hblank c hc
    | cons d front => exact hend c hc

theorem takeWords_append {n : Nat} {cs : List Char} (h : n ≤ (words cs).length)
    {text : List Char} (hblank : ∀ c ∈ text.head?, isBlank c = true) :
    takeWords n (cs ++ text) = ((takeWords n cs).1, (takeWords n cs).2 ++ text) := by
  have htake := takeWords_add ((beginsWith_takeWords h).append hblank) 0
  rw [List.length_take, Nat.min_eq_left h, ← takeWords_fst, takeWords, List.append_nil] at htake
  exact htake

/-- The words in front of a gap decide which words are still to be taken after it. What the gap
looks like does not matter, except that there has to be one. -/
theorem takeWords_append_gap (start : List Char) {gap : List Char} (hgap : IsGap gap)
    (hne : gap ≠ []) (n : Nat) (rest : List Char) :
    (takeWords ((words start).length + n) (start ++ gap ++ rest)).1 =
        words start ++ (takeWords n rest).1 ∧
      trim (takeWords ((words start).length + n) (start ++ gap ++ rest)).2 =
        trim (takeWords n rest).2 := by
  obtain ⟨after, hbegins, hafter⟩ := hasWords_iff.2 (rfl : words start = words start)
  have hblank : ∀ c ∈ (gap ++ rest).head?, isBlank c = true := by
    intro c hc
    rw [List.head?_append_of_ne_nil _ hne] at hc
    exact hgap c (List.mem_of_head? hc)
  rw [List.append_assoc, takeWords_add (hbegins.append hblank) n]
  cases n with
  | zero =>
    refine ⟨rfl, ?_⟩
    rw [takeWords, takeWords, trim_gap_append hafter, trim_gap_append hgap]
  | succ n =>
    rw [takeWords_gap_append hafter, takeWords_gap_append hgap]
    exact ⟨rfl, rfl⟩

end Timetable.Text
