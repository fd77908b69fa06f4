import Mathlib
import Timetable.Crontab
import Timetable.Proofs.WorkerPool
/-!
# Loading a crontab

Whatever is done to an empty crontab, its jobs are those of the schedule lines that were
accepted so far, numbered from zero on in the order of the lines. The three ways of loading
count the numbers each in their own way, and with several workers the jobs come back in any
order; all of them go on where the jobs so far end.

## Main definitions

- `Operation`, `Operation.perform` — what can be done to a crontab
- `Crontab.after` — a crontab after some operations
- `Crontab.acceptedLines` — the schedule lines of the operations that succeed
- `Crontab.Holds` — the jobs of a crontab are those of some schedules

## Main statements

- `Crontab.build_eq_buildInOrder` — workers or not, the same jobs
- `Crontab.Holds.perform` — what each operation adds
- `jobs_after` — the crontab after any operations
-/

namespace Timetable

/-! ## Reading lines -/

/-- The lines of a text. -/
def Text.linesOf (text : String) : List String :=
  (Text.lines text.toList).map String.ofList

namespace Crontab

/-- Lines are read if each schedule line among them is understood. -/
theorem readLines_eq_ok_iff {n : Nat} {lines : List String} {schedules : List Schedule} :
    readLines n lines = .ok schedules ↔
      (lines.filter isScheduleLine).map Schedule.parse = schedules.map .ok := by
  induction lines generalizing n schedules with
  | nil =>
    rw [readLines]
    cases schedules with
    | nil => simp
    | cons schedule schedules => simp
  | cons line lines ih =>
    rw [readLines, List.filter_cons]
    by_cases hline : isScheduleLine line = true
    · rw [if_pos hline, if_pos hline, List.map_cons]
      cases hparse : Schedule.parse line with
      | error error =>
        cases schedules with
        | nil => simp
        | cons schedule schedules => simp
      | ok first =>
        cases schedules with
        | nil =>
          cases hlater : readLines (n + 1) lines with
          | error error => simp [Except.map]
          | ok later => simp [Except.map]
        | cons schedule schedules =>
          rw [List.map_cons, List.cons.injEq, ← ih (n := n + 1), Except.ok.injEq]
          cases hlater : readLines (n + 1) lines with
          | error error => simp [Except.map]
          | ok later => simp [Except.map]
    · rw [if_neg hline, if_neg hline, ih]

theorem readText_eq_ok_iff {text : String} {schedules : List Schedule} :
    readText text = .ok schedules ↔
      ((Text.linesOf text).filter isScheduleLine).map Schedule.parse = schedules.map .ok :=
  readLines_eq_ok_iff

/-! ## Building jobs -/

/-- The schedules with their numbers, of which `first` is the first. -/
def numbered (first : Nat) (schedules : List Schedule) : List (Nat × Schedule) :=
  schedules.mapIdx fun index schedule => (first + index, schedule)

theorem pairwise_numbered (first : Nat) (schedules : List Schedule) :
    (numbered first schedules).Pairwise fun a b => a.1 < b.1 := by
  rw [List.pairwise_iff_getElem]
  intro i j hi hj hij
  simp only [numbered, List.getElem_mapIdx]
  exact Nat.add_lt_add_left hij first

/-- Jobs with ascending numbers are found again, in whatever order they come. -/
theorem mergeSort_eq_of_perm {jobs inOrder : List Job} (hperm : jobs.Perm inOrder)
    (hnumbers : inOrder.Pairwise fun a b => a.id < b.id) :
    (jobs.mergeSort fun a b => a.id ≤ b.id) = inOrder := by
  have hsorted : (jobs.mergeSort fun a b => a.id ≤ b.id).Pairwise fun a b => a.id ≤ b.id := by
    refine (List.pairwise_mergeSort ?_ ?_ jobs).imp fun h => of_decide_eq_true h
    · intro a b c hab hbc
      exact decide_eq_true (Nat.le_trans (of_decide_eq_true hab) (of_decide_eq_true hbc))
    · intro a b
      rw [Bool.or_eq_true, decide_eq_true_iff, decide_eq_true_iff]
      exact Nat.le_total a.id b.id
  have hnodup : (inOrder.map Job.id).Nodup :=
    List.pairwise_map.2 (hnumbers.imp Nat.ne_of_lt)
  have hsame := (List.mergeSort_perm jobs fun a b => decide (a.id ≤ b.id)).trans hperm
  refine List.Perm.eq_of_pairwise ?_ hsorted (hnumbers.imp Nat.le_of_lt) hsame
  -- No two jobs share a number, so jobs that come both before each other are the same.
  intro a b ha hb hab hba
  exact List.inj_on_of_nodup_map hnodup (hsame.subset ha) hb (Nat.le_antisymm hab hba)

/-- Workers give the jobs back in any order, but with their numbers, which restore the order
of the lines. -/
theorem build_eq_buildInOrder (c : Crontab) {items : List (Nat × Schedule)}
    (h : items.Pairwise fun a b => a.1 < b.1) : c.build items = c.buildInOrder items := by
  rw [build]
  split
  · next hworkers =>
    -- There are no more workers than items, but there is one.
    have hpos : 0 < min c.threads items.length := by omega
    apply mergeSort_eq_of_perm (Pool.run_perm c.buildJob hpos items)
    exact List.pairwise_map.2 h
  · rfl

/-- The jobs of further schedules, with numbers that go on where the jobs so far end. -/
def furtherJobs (c : Crontab) (schedules : List Schedule) : List Job :=
  schedules.mapIdx fun index schedule =>
    Job.build c.window c.classifier (c.jobs.length + index) schedule

/-- The crontab with the jobs of further schedules. -/
def adding (c : Crontab) (schedules : List Schedule) : Crontab :=
  { c with jobs := c.jobs ++ c.furtherJobs schedules }

theorem build_numbered (c : Crontab) (schedules : List Schedule) :
    c.build (numbered c.jobs.length schedules) = c.furtherJobs schedules := by
  rw [build_eq_buildInOrder c (pairwise_numbered _ _), furtherJobs]
  apply List.ext_getElem
  · simp [buildInOrder, numbered]
  · intro i _ _
    simp [buildInOrder, numbered, buildJob]

/-! ## What each operation does -/

theorem addLine_eq (c : Crontab) (line : String) :
    c.addLine line =
      if isScheduleLine line then
        match Schedule.parse line with
        | .ok schedule => (.ok (some c.jobs.length), c.adding [schedule])
        | .error error => (.error error, c)
      else (.ok none, c) :=
  rfl

/-- A text is added as a whole or not at all. -/
theorem loadText_eq (c : Crontab) (text : String) :
    c.loadText text =
      match readText text with
      | .ok schedules => (.ok schedules.length, c.adding schedules)
      | .error error => (.error error, c) := by
  rw [loadText]
  cases readText text with
  | ok schedules =>
    -- The items for the workers are numbered from the number of jobs on.
    show (_, { c with jobs := c.jobs ++ c.build (numbered c.jobs.length schedules) }) = _
    rw [build_numbered]
    rfl
  | error error => rfl

end Crontab

/-- What can be done to a crontab. For a file it is said what reading it gives. -/
inductive Operation where
  | addLine (line : String)
  | loadText (text : String)
  | loadFile (path : String) (content : Except FileFailure String)
  | withThreads (threads : Nat)

/-- What an operation answers when it succeeds. -/
inductive Answer where
  | added (id : Option Nat)
  | loaded (count : Nat)
  | done
  deriving DecidableEq, Repr

namespace Operation

/-- The answer of an operation and the crontab after it. -/
def perform (c : Crontab) : Operation → Except Error Answer × Crontab
  | addLine line => ((c.addLine line).1.map .added, (c.addLine line).2)
  | loadText text => ((c.loadText text).1.map .loaded, (c.loadText text).2)
  | loadFile path content =>
    ((c.loadFile path content).1.map .loaded, (c.loadFile path content).2)
  | withThreads threads => (.ok .done, c.withThreads threads)

/-- The lines that an operation is given. -/
def lines : Operation → List String
  | addLine line => [line]
  | loadText text => Text.linesOf text
  | loadFile _ (.ok text) => Text.linesOf text
  | loadFile _ (.error _) => []
  | withThreads _ => []

/-- The schedule lines of an operation if it succeeds, and none otherwise. -/
def acceptedLines (c : Crontab) (op : Operation) : List String :=
  match (op.perform c).1 with
  | .ok _ => op.lines.filter isScheduleLine
  | .error _ => []

end Operation

namespace Crontab

/-- The crontab after some operations. -/
def after (c : Crontab) : List Operation → Crontab
  | [] => c
  | op :: later => after (op.perform c).2 later

/-- The schedule lines of those among some operations that succeed, in order. -/
def acceptedLines (c : Crontab) : List Operation → List String
  | [] => []
  | op :: later => op.acceptedLines c ++ acceptedLines (op.perform c).2 later

/-- The crontab is one for the window and the styles, and its jobs are those of the schedules,
numbered from zero on. -/
structure Holds (c : Crontab) (w : Window) (styles : StyleTable) (schedules : List Schedule) :
    Prop where
  window : c.window = w
  classifier : c.classifier = .ofWindow w styles
  jobs : c.jobs = schedules.mapIdx (Job.build w (.ofWindow w styles))

theorem holds_empty (w : Window) (styles : StyleTable) : (empty w styles).Holds w styles [] :=
  ⟨rfl, rfl, rfl⟩

namespace Holds

variable {c : Crontab} {w : Window} {styles : StyleTable} {schedules : List Schedule}

theorem adding (h : c.Holds w styles schedules) (added : List Schedule) :
    (c.adding added).Holds w styles (schedules ++ added) where
  window := h.window
  classifier := h.classifier
  jobs := by
    show c.jobs ++ c.furtherJobs added = _
    rw [List.mapIdx_append, furtherJobs, h.window, h.classifier, h.jobs, List.length_mapIdx]
    simp only [Nat.add_comm]

theorem addLine (h : c.Holds w styles schedules) (line : String) :
    ∃ added : List Schedule,
      ((Operation.addLine line).acceptedLines c).map Schedule.parse = added.map .ok ∧
        (c.addLine line).2.Holds w styles (schedules ++ added) := by
  by_cases hline : isScheduleLine line = true
  · cases hparse : Schedule.parse line with
    | ok schedule =>
      refine ⟨[schedule], ?_, ?_⟩
      · simp [Operation.acceptedLines, Operation.perform, addLine_eq, Operation.lines, hline,
          hparse, Except.map]
      · simpa [addLine_eq, hline, hparse] using h.adding [schedule]
    | error error =>
      refine ⟨[], ?_, ?_⟩
      · simp [Operation.acceptedLines, Operation.perform, addLine_eq, hline, hparse,
          Except.map]
      · simpa [addLine_eq, hline, hparse] using h
  · refine ⟨[], ?_, ?_⟩
    · simp [Operation.acceptedLines, Operation.perform, addLine_eq, Operation.lines, hline,
        Except.map]
    · simpa [addLine_eq, hline] using h

theorem loadText (h : c.Holds w styles schedules) (text : String) :
    ∃ added : List Schedule,
      ((Operation.loadText text).acceptedLines c).map Schedule.parse = added.map .ok ∧
        (c.loadText text).2.Holds w styles (schedules ++ added) := by
  cases hread : readText text with
  | ok added =>
    refine ⟨added, ?_, ?_⟩
    · rw [← readText_eq_ok_iff.1 hread]
      simp [Operation.acceptedLines, Operation.perform, loadText_eq, Operation.lines, hread,
        Except.map]
    · simpa [loadText_eq, hread] using h.adding added
  | error error =>
    refine ⟨[], ?_, ?_⟩
    · simp [Operation.acceptedLines, Operation.perform, loadText_eq, hread, Except.map]
    · simpa [loadText_eq, hread] using h

/-- Each operation adds the jobs of the schedule lines that it accepts. -/
theorem perform (h : c.Holds w styles schedules) (op : Operation) :
    ∃ added : List Schedule,
      (op.acceptedLines c).map Schedule.parse = added.map .ok ∧
        (op.perform c).2.Holds w styles (schedules ++ added) := by
  cases op with
  | addLine line => exact h.addLine line
  | loadText text => exact h.loadText text
  | loadFile path content =>
    cases content with
    | ok text => exact h.loadText text
    | error failure =>
      refine ⟨[], rfl, ?_⟩
      rw [List.append_nil]
      exact h
  | withThreads threads =>
    refine ⟨[], rfl, ?_⟩
    rw [List.append_nil]
    exact ⟨h.window, h.classifier, h.jobs⟩

theorem after (h : c.Holds w styles schedules) (ops : List Operation) :
    ∃ added : List Schedule,
      (c.acceptedLines ops).map Schedule.parse = added.map .ok ∧
        (c.after ops).Holds w styles (schedules ++ added) := by
  induction ops generalizing c schedules with
  | nil =>
    refine ⟨[], rfl, ?_⟩
    rw [List.append_nil]
    exact h
  | cons op later ih =>
    obtain ⟨first, hfirst, hop⟩ := h.perform op
    obtain ⟨rest, hrest, hlater⟩ := ih hop
    refine ⟨first ++ rest, ?_, ?_⟩
    · rw [Crontab.acceptedLines, List.map_append, List.map_append, hfirst, hrest]
    · rw [← List.append_assoc]
      exact hlater

end Holds

end Crontab

/-- An operation that fails leaves the crontab as it was. -/
theorem Operation.perform_of_error {c : Crontab} {op : Operation} {error : Error}
    (h : (op.perform c).1 = .error error) : (op.perform c).2 = c := by
  cases op with
  | addLine line =>
    simp only [perform, Crontab.addLine_eq] at h ⊢
    by_cases hline : isScheduleLine line = true
    · rw [if_pos hline] at h ⊢
      cases hparse : Schedule.parse line with
      | ok schedule => simp [hparse, Except.map] at h
      | error failure => rfl
    · rw [if_neg hline]
  | loadText text =>
    simp only [perform, Crontab.loadText_eq] at h ⊢
    cases hread : Crontab.readText text with
    | ok schedules => simp [hread, Except.map] at h
    | error failure => rfl
  | loadFile path content =>
    cases content with
    | ok text =>
      simp only [perform, Crontab.loadFile, Crontab.loadText_eq] at h ⊢
      cases hread : Crontab.readText text with
      | ok schedules => simp [hread, Except.map] at h
      | error failure => rfl
    | error failure => rfl
  | withThreads threads => cases h

/-- After any operations on an empty crontab, its window and its classifier are those it was
made with, and its jobs are those of the schedule lines that were accepted, numbered from zero
on in the order in which the lines were given. An operation that then fails changes nothing. -/
theorem jobs_after (w : Window) (styles : StyleTable) (ops : List Operation) :
    ((Crontab.empty w styles).after ops).window = w ∧
      ((Crontab.empty w styles).after ops).classifier.counts = .ofWindow w ∧
      ((Crontab.empty w styles).after ops).classifier.styles = styles ∧
      (∃ schedules : List Schedule,
        ((Crontab.empty w styles).acceptedLines ops).map Schedule.parse = schedules.map .ok ∧
          ((Crontab.empty w styles).after ops).jobs =
            schedules.mapIdx (Job.build w (.ofWindow w styles))) ∧
      ((Crontab.empty w styles).after ops).jobs.map Job.id =
        List.range ((Crontab.empty w styles).after ops).jobs.length ∧
      ∀ (op : Operation) (error : Error),
        (op.perform ((Crontab.empty w styles).after ops)).1 = .error error →
          (op.perform ((Crontab.empty w styles).after ops)).2 =
            (Crontab.empty w styles).after ops := by
  obtain ⟨schedules, hlines, hwindow, hclassifier, hjobs⟩ :=
    (Crontab.holds_empty w styles).after ops
  rw [List.nil_append] at hjobs
  refine ⟨hwindow, ?_, ?_, ⟨schedules, hlines, hjobs⟩, ?_, ?_⟩
  · rw [hclassifier]
    rfl
  · rw [hclassifier]
    rfl
  · rw [hjobs]
    apply List.ext_getElem
    · rw [List.length_map, List.length_range]
    · intro index _ _
      rw [List.getElem_map, List.getElem_mapIdx, List.getElem_range]
      rfl
  · intro op error h
    exact Operation.perform_of_error h

/-- A text that fails in its third line, after other operations on the crontab. -/
theorem jobs_after_failing_text :
    ∃ (w : Window) (c : Crontab) (error : Error),
      Window.parse "2011-10-11 00:00" "2011-10-12 00:00" = .ok w ∧
        c = (Crontab.empty w .builtin).after [.withThreads 4,
          .loadText "# nightly\n0 1 * * * first\n*/5 * * * * second", .addLine "2 * * * third"] ∧
        error = .atLine 3 (.invalidToken .month "bad") ∧
        ((Operation.loadText "0 3 * * * fourth\n\n0 * * bad * fifth\n").perform c).1 =
          .error error ∧
        ((Operation.loadText "0 3 * * * fourth\n\n0 * * bad * fifth\n").perform c).2 = c := by
  have hread : Crontab.readText "0 3 * * * fourth\n\n0 * * bad * fifth\n" =
      .error (.atLine 3 (.invalidToken .month "bad")) := by cbv
  have hok : (Window.parse "2011-10-11 00:00" "2011-10-12 00:00").isOk = true := by cbv
  cases hw : Window.parse "2011-10-11 00:00" "2011-10-12 00:00" with
  | error error =>
    rw [hw] at hok
    cases hok
  | ok w =>
    obtain ⟨-, -, -, -, -, hfails⟩ := jobs_after w .builtin [.withThreads 4,
      .loadText "# nightly\n0 1 * * * first\n*/5 * * * * second", .addLine "2 * * * third"]
    have herror : ((Operation.loadText "0 3 * * * fourth\n\n0 * * bad * fifth\n").perform
        ((Crontab.empty w .builtin).after [.withThreads 4,
          .loadText "# nightly\n0 1 * * * first\n*/5 * * * * second",
          .addLine "2 * * * third"])).1 =
        .error (.atLine 3 (.invalidToken .month "bad")) := by
      simp only [Operation.perform, Crontab.loadText_eq, hread, Except.map]
    exact ⟨w, _, _, rfl, rfl, rfl, herror, hfails _ _ herror⟩

end Timetable
