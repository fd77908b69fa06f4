import Mathlib
import Timetable.Proofs.Lines
import Timetable.Proofs.Loading
import Timetable.Proofs.Results
/-!
# Loading line by line

A text is loaded as if its lines were added one after the other, as long as none of them has an
error: the answer counts the lines that added a job, and the crontab is the same. If a line has
an error, the answer is the error of the first such line, with the number of that line among all
lines, and the lines before it have added nothing.

## Main definitions

- `Crontab.addLines` — the answers to some lines and the crontab after them
- `Crontab.collect` — one answer made of the answers to all lines of a text
- `Crontab.FirstError` — where the first error among some answers is

## Main statements

- `Crontab.collect_addLines` — reading lines answers as adding them does
- `loadText_agrees_with_addLine` — a text and its lines
-/

namespace Timetable

namespace Crontab

/-- The answers to lines that are added one after the other, and the crontab after them. A line
with an error adds nothing, and the next one is added to the same crontab. -/
def addLines (c : Crontab) : List String → List (Except Error (Option Nat)) × Crontab
  | [] => ([], c)
  | line :: later =>
    let first := c.addLine line
    let rest := first.2.addLines later
    (first.1 :: rest.1, rest.2)

/-- Whether the answer to a line is that it added a job. -/
def addsJob : Except Error (Option Nat) → Bool
  | .ok (some _) => true
  | .ok none => false
  | .error _ => false

/-! ## One answer for all lines -/

/-- The first error among the answers, with the number of its line if the first answer is that
of line `n`, or else the number of jobs that were added. -/
def collect (n : Nat) : List (Except Error (Option Nat)) → Except Error Nat
  | [] => .ok 0
  | .ok none :: later => collect (n + 1) later
  | .ok (some _) :: later => (collect (n + 1) later).map (· + 1)
  | .error error :: _ => .error (.atLine n error)

theorem collect_eq_ok_iff {n count : Nat} {answers : List (Except Error (Option Nat))} :
    collect n answers = .ok count ↔
      (∀ answer ∈ answers, ∃ id, answer = .ok id) ∧ answers.countP addsJob = count := by
  induction answers generalizing n count with
  | nil => simp [collect]
  | cons answer later ih =>
    rw [List.forall_mem_cons, List.countP_cons]
    match answer with
    | .error error => simp [collect]
    | .ok none => simp [collect, addsJob, ih]
    | .ok (some id) => simp [collect, addsJob, map_eq_ok_iff, ih, and_assoc]

/-- The failure is the first error among the answers, before which there is none. The first
answer is that of line `n`. -/
def FirstError (n : Nat) (answers : List (Except Error (Option Nat))) (failure : Error) : Prop :=
  ∃ k error, failure = .atLine (n + k) error ∧ answers[k]? = some (.error error) ∧
    ∀ i < k, ∃ id, answers[i]? = some (.ok id)

theorem firstError_cons_error {n : Nat} {error failure : Error}
    {later : List (Except Error (Option Nat))} :
    FirstError n (.error error :: later) failure ↔ failure = .atLine n error := by
  constructor
  · rintro ⟨k, later, rfl, hk, hbefore⟩
    cases k with
    | zero =>
      cases hk
      rfl
    | succ k =>
      obtain ⟨id, hid⟩ := hbefore 0 (Nat.succ_pos k)
      cases hid
  · rintro rfl
    exact ⟨0, error, rfl, rfl, fun i hi => absurd hi (Nat.not_lt_zero i)⟩

/-- An answer without an error stands before the first error wherever that is. -/
theorem firstError_cons_ok {n : Nat} {id : Option Nat} {failure : Error}
    {later : List (Except Error (Option Nat))} :
    FirstError n (.ok id :: later) failure ↔ FirstError (n + 1) later failure := by
  constructor
  · rintro ⟨k, error, hfailure, hk, hbefore⟩
    cases k with
    | zero => cases hk
    | succ k =>
      refine ⟨k, error, by rw [hfailure, Nat.add_right_comm, Nat.add_assoc], hk, ?_⟩
      intro i hi
      exact hbefore (i + 1) (Nat.succ_lt_succ hi)
  · rintro ⟨k, error, hfailure, hk, hbefore⟩
    refine ⟨k + 1, error, by rw [hfailure, Nat.add_right_comm, Nat.add_assoc], hk, ?_⟩
    intro i hi
    cases i with
    | zero => exact ⟨id, rfl⟩
    | succ i => exact hbefore i (Nat.lt_of_succ_lt_succ hi)

theorem collect_eq_error_iff {n : Nat} {answers : List (Except Error (Option Nat))}
    {failure : Error} : collect n answers = .error failure ↔ FirstError n answers failure := by
  induction answers generalizing n with
  | nil => simp [collect, FirstError]
  | cons answer later ih =>
    match answer with
    | .ok none => rw [firstError_cons_ok, collect, ih]
    | .ok (some id) => rw [firstError_cons_ok, collect, map_eq_error_iff, ih]
    | .error error => rw [firstError_cons_error, collect, Except.error.injEq, eq_comm]

/-! ## Reading lines and adding them -/

theorem adding_nil (c : Crontab) : c.adding [] = c := by
  rw [adding, furtherJobs, List.mapIdx_nil, List.append_nil]

theorem adding_append (c : Crontab) (first later : List Schedule) :
    c.adding (first ++ later) = (c.adding first).adding later := by
  simp only [adding, furtherJobs, List.mapIdx_append, List.append_assoc, List.length_append,
    List.length_mapIdx]
  simp only [Nat.add_comm, Nat.add_left_comm]

theorem adding_cons (c : Crontab) (schedule : Schedule) (later : List Schedule) :
    c.adding (schedule :: later) = (c.adding [schedule]).adding later :=
  c.adding_append [schedule] later

/-- Reading lines gives the answer that adding them gives. -/
theorem collect_addLines (c : Crontab) (n : Nat) (lines : List String) :
    collect n (c.addLines lines).1 = (readLines n lines).map List.length := by
  induction lines generalizing c n with
  | nil => rfl
  | cons line later ih =>
    rw [addLines, addLine_eq, readLines]
    by_cases hline : isScheduleLine line = true
    · rw [if_pos hline, if_pos hline]
      cases Schedule.parse line with
      | error error => rfl
      | ok schedule =>
        rw [collect, ih]
        cases readLines (n + 1) later with
        | error error => rfl
        | ok schedules => rfl
    · rw [if_neg hline, if_neg hline, collect, ih]

/-- The schedules that are read are those whose jobs are added line by line. -/
theorem addLines_eq_adding {c : Crontab} {n : Nat} {lines : List String}
    {schedules : List Schedule} (h : readLines n lines = .ok schedules) :
    (c.addLines lines).2 = c.adding schedules := by
  induction lines generalizing c n schedules with
  | nil =>
    rw [readLines] at h
    cases h
    rw [addLines, adding_nil]
  | cons line later ih =>
    rw [readLines] at h
    rw [addLines, addLine_eq]
    by_cases hline : isScheduleLine line = true
    · rw [if_pos hline] at h ⊢
      cases hparse : Schedule.parse line with
      | error error =>
        rw [hparse] at h
        cases h
      | ok schedule =>
        rw [hparse] at h
        obtain ⟨rest, hrest, rfl⟩ := map_eq_ok_iff.1 h
        rw [adding_cons]
        exact ih hrest
    · rw [if_neg hline] at h ⊢
      exact ih h

theorem readText_eq (text : String) : readText text = readLines 1 (Text.linesOf text) :=
  rfl

theorem loadText_fst (c : Crontab) (text : String) :
    (c.loadText text).1 = collect 1 (c.addLines (Text.linesOf text)).1 := by
  rw [collect_addLines, loadText_eq, readText_eq]
  cases readLines 1 (Text.linesOf text) with
  | ok schedules => rfl
  | error error => rfl

theorem loadText_snd (c : Crontab) (text : String) :
    (c.loadText text).2 =
      match (c.loadText text).1 with
      | .ok _ => (c.addLines (Text.linesOf text)).2
      | .error _ => c := by
  rw [loadText_eq, readText_eq]
  cases hread : readLines 1 (Text.linesOf text) with
  | ok schedules => exact (addLines_eq_adding hread).symm
  | error error => rfl

end Crontab

/-- Loading a text is adding its lines in order. It succeeds if no line has an error, and then
it counts the lines that add a job and leaves the crontab that they leave. Otherwise its error
is that of the first line with an error, with the number of this line when all lines are counted
from one, and the crontab stays as it was. -/
theorem loadText_agrees_with_addLine (c : Crontab) (text : String) :
    (∀ lines, Text.HasLines text.toList lines ↔
        (Text.linesOf text).map String.toList = lines) ∧
      (∀ count, (c.loadText text).1 = .ok count ↔
        (∀ answer ∈ (c.addLines (Text.linesOf text)).1, ∃ id, answer = .ok id) ∧
          (c.addLines (Text.linesOf text)).1.countP Crontab.addsJob = count) ∧
      (∀ failure, (c.loadText text).1 = .error failure ↔
        ∃ k error, failure = .atLine (1 + k) error ∧
          (c.addLines (Text.linesOf text)).1[k]? = some (.error error) ∧
          ∀ i < k, ∃ id, (c.addLines (Text.linesOf text)).1[i]? = some (.ok id)) ∧
      (c.loadText text).2 =
        match (c.loadText text).1 with
        | .ok _ => (c.addLines (Text.linesOf text)).2
        | .error _ => c := by
  refine ⟨?_, ?_, ?_, c.loadText_snd text⟩
  · intro lines
    rw [Text.hasLines_iff, Text.linesOf, List.map_map]
    simp
  · intro count
    rw [Crontab.loadText_fst]
    exact Crontab.collect_eq_ok_iff
  · intro failure
    rw [Crontab.loadText_fst]
    exact Crontab.collect_eq_error_iff

end Timetable
