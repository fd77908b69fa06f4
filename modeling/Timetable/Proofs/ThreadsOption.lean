import Mathlib
import Timetable.CommandLine.Arguments
import Timetable.Proofs.Results
/-!
# The number of workers among the arguments

Reading arguments never looks at the number of workers that was given, only at whether one was.
So another number in its place is accepted as well, and the arguments ask for the same in all
other respects.

## Main statements

- `Scan.step_withThreads` — one argument after a number of workers
- `Scan.foldlM_withThreads` — all later arguments
- `Request.ofArguments_threads` — another number in the same place
-/

namespace Timetable

namespace Options

/-- The options with a number of workers. -/
def withThreads (o : Options) (n : Nat) : Options :=
  { o with threads := some n }

variable (o : Options) (n : Nat)

theorem set_withThreads (hthreads : o.threads.isSome) (setting : Setting) (value : String) :
    (o.withThreads n).set setting value = (o.set setting value).map (·.withThreads n) := by
  cases setting with
  | config =>
    simp only [set, withThreads]
    cases path .config value with
    | error failure => rfl
    | ok value => cases o.config <;> rfl
  | earliest =>
    simp only [set, withThreads]
    cases o.earliest <;> rfl
  | latest =>
    simp only [set, withThreads]
    cases o.latest <;> rfl
  | output =>
    simp only [set, withThreads]
    cases path .output value with
    | error failure => rfl
    | ok value => cases o.output <;> rfl
  | threads =>
    obtain ⟨m, hm⟩ := Option.isSome_iff_exists.1 hthreads
    simp only [set, withThreads, hm]
    cases threads? value with
    | none => rfl
    | some k => rfl

theorem setCrontab_withThreads (value : String) :
    (o.withThreads n).setCrontab value = (o.setCrontab value).map (·.withThreads n) := by
  rw [setCrontab, setCrontab, apply_ite (Except.map _)]
  rfl

theorem setPretty_withThreads :
    (o.withThreads n).setPretty = o.setPretty.map (·.withThreads n) := by
  rw [setPretty, setPretty, apply_ite (Except.map _)]
  rfl

end Options

namespace Scan

/-- The scan with a number of workers. -/
def withThreads (s : Scan) (n : Nat) : Scan :=
  { s with options := s.options.withThreads n }

variable (s : Scan) (n : Nat)

theorem withOptions_withThreads (options : Except UsageError Options) :
    (s.withThreads n).withOptions (options.map (·.withThreads n)) =
      (s.withOptions options).map (·.withThreads n) := by
  cases options with
  | ok options => rfl
  | error failure => rfl

variable (hthreads : s.options.threads.isSome)

include hthreads

theorem withOptions_set_withThreads (setting : Setting) (value : String) :
    (s.withThreads n).withOptions ((s.withThreads n).options.set setting value) =
      (s.withOptions (s.options.set setting value)).map (·.withThreads n) := by
  rw [← withOptions_withThreads, ← s.options.set_withThreads n hthreads]
  rfl

theorem long_withThreads (name : String) (value : Option String) :
    (s.withThreads n).long name value = (s.long name value).map (·.withThreads n) := by
  unfold long
  match Setting.ofName? name, value with
  | some setting, some value => exact s.withOptions_set_withThreads n hthreads setting value
  | some setting, none => rfl
  | none, value =>
    simp only [apply_ite (Except.map _), ← withOptions_withThreads,
      ← s.options.setPretty_withThreads]
    rfl

theorem short_withThreads (letter : Char) (value : List Char) :
    (s.withThreads n).short letter value = (s.short letter value).map (·.withThreads n) := by
  unfold short
  split
  · rfl
  · exact s.withOptions_set_withThreads n hthreads .output _
  · exact s.withOptions_set_withThreads n hthreads .output _
  · rfl
  · rfl
  · rfl

theorem freeArgument_withThreads (argument : String) :
    (s.withThreads n).freeArgument argument =
      (s.freeArgument argument).map (·.withThreads n) := by
  unfold freeArgument
  show (if s.onlyPaths ∨ isOperand argument then _ else _) = _
  split
  · rw [← withOptions_withThreads, ← s.options.setCrontab_withThreads]
    rfl
  · split
    · rfl
    · split
      · exact s.long_withThreads n hthreads _ _
      · exact s.long_withThreads n hthreads _ _
    · exact s.short_withThreads n hthreads _ _
    · rfl

/-- One argument is read alike whatever the number of workers is. -/
theorem step_withThreads (argument : String) :
    (s.withThreads n).step argument = (s.step argument).map (·.withThreads n) := by
  unfold step
  have hpending : (s.withThreads n).pending = s.pending := rfl
  rw [hpending]
  cases s.pending with
  | none => exact s.freeArgument_withThreads n hthreads argument
  | some setting =>
    simp only
    split
    · exact s.withOptions_set_withThreads n hthreads setting argument
    · rfl

/-- A number of workers that was given stays. -/
theorem isSome_threads_of_step {t : Scan} {argument : String} (h : s.step argument = .ok t) :
    t.options.threads.isSome := by
  obtain ⟨m, hm⟩ := Option.isSome_iff_exists.1 hthreads
  have hsame : s.withThreads m = s := by
    rw [withThreads, Options.withThreads, ← hm]
  have hstep := s.step_withThreads m hthreads argument
  rw [hsame, h] at hstep
  rw [Except.ok.inj hstep]
  rfl

/-- All arguments are read alike, whatever the number of workers before them is. -/
theorem foldlM_withThreads (arguments : List String) :
    arguments.foldlM step (s.withThreads n) =
      (arguments.foldlM step s).map (·.withThreads n) := by
  induction arguments generalizing s with
  | nil => rfl
  | cons argument arguments ih =>
    rw [List.foldlM_cons, List.foldlM_cons, s.step_withThreads n hthreads]
    cases hstep : s.step argument with
    | error stop => rfl
    | ok t => exact ih t (s.isSome_threads_of_step hthreads hstep)

end Scan

/-! ## Another number of workers -/

namespace Scan

variable {s t : Scan}

/-- The option is waiting for its value, unless it is taken for the crontab. -/
theorem step_threads (h : s.step "--threads" = .ok t) :
    t = { s with pending := some .threads } ∧ s.pending = none ∨
      t.pending = none ∧ t.onlyPaths = true ∧ t.options.crontab.isSome := by
  have hname : isOperand "--threads" = false := by decide
  rw [step] at h
  cases hpending : s.pending with
  | some setting => simp [hpending, hname] at h
  | none =>
    simp only [hpending, freeArgument, hname] at h
    by_cases hpaths : s.onlyPaths = true
    · right
      rw [if_pos (.inl hpaths), Options.setCrontab] at h
      split at h
      · cases h
      · cases h
        exact ⟨rfl, hpaths, rfl⟩
    · left
      rw [if_neg (by simp [hpaths])] at h
      cases h
      exact ⟨rfl, rfl⟩

/-- There is no second crontab. -/
theorem step_of_crontab {value : String} (hpending : t.pending = none)
    (hpaths : t.onlyPaths = true) (hcrontab : t.options.crontab.isSome) :
    t.step value = .error (.refused (.unexpectedPath value)) := by
  simp [step, hpending, freeArgument, hpaths, withOptions, Options.setCrontab, hcrontab]

theorem isOperand_of_threads? {value : String} {n : Nat} (h : Options.threads? value = some n) :
    isOperand value = true := by
  rw [isOperand, Bool.or_eq_true, decide_eq_true_iff, decide_eq_true_iff]
  right
  intro hhead
  obtain ⟨cs, hcs⟩ := List.head?_eq_some_iff.1 hhead
  simp [Options.threads?, hcs, Text.numeral?] at h

theorem step_value {value : String} {n : Nat} (hvalue : Options.threads? value = some n)
    (hnone : s.options.threads = none) :
    ({ s with pending := some .threads } : Scan).step value =
      .ok ⟨s.options.withThreads n, none, s.onlyPaths⟩ := by
  simp only [step, isOperand_of_threads? hvalue, if_true, Options.set, hvalue, hnone]
  rfl

theorem step_value_eq_ok {value : String}
    (h : ({ s with pending := some .threads } : Scan).step value = .ok t) :
    s.options.threads = none ∧ ∃ n, Options.threads? value = some n := by
  simp only [step, Options.set] at h
  split at h
  · cases hvalue : Options.threads? value with
    | none => simp [hvalue, withOptions] at h
    | some n =>
      cases hold : s.options.threads with
      | none => exact ⟨rfl, n, rfl⟩
      | some m => simp [hvalue, hold, Options.fill, bind, Except.bind, withOptions] at h
  · cases h

end Scan

theorem Request.ofArguments_eq_timeline_iff {arguments : List String} {options : Options} :
    Request.ofArguments arguments = .ok (.timeline options) ↔
      ∃ onlyPaths, arguments.foldlM Scan.step .start = .ok ⟨options, none, onlyPaths⟩ := by
  rw [Request.ofArguments]
  match arguments.foldlM Scan.step .start with
  | .ok ⟨_, none, _⟩ => simp
  | .ok ⟨_, some _, _⟩ => simp
  | .error .help => simp
  | .error .version => simp
  | .error (.refused _) => simp

/-- Where a number of workers was accepted, another one is accepted too, and nothing else that
is asked for changes. -/
theorem Request.ofArguments_threads {front back : List String} {value value' : String} {n : Nat}
    {options : Options}
    (h : Request.ofArguments (front ++ "--threads" :: value :: back) = .ok (.timeline options))
    (hvalue' : Options.threads? value' = some n) :
    Request.ofArguments (front ++ "--threads" :: value' :: back) =
      .ok (.timeline (options.withThreads n)) := by
  rw [ofArguments_eq_timeline_iff] at h ⊢
  simp only [List.foldlM_append, List.foldlM_cons, bind_eq_ok_iff] at h ⊢
  obtain ⟨onlyPaths, s, hfront, t, hname, u, hvalue, hback⟩ := h
  rcases Scan.step_threads hname with ⟨rfl, hpending⟩ | ⟨hpending, hpaths, hcrontab⟩
  · obtain ⟨hnone, m, hm⟩ := Scan.step_value_eq_ok hvalue
    rw [Scan.step_value hm hnone] at hvalue
    cases hvalue
    refine ⟨onlyPaths, s, hfront, _, hname, _, Scan.step_value hvalue' hnone, ?_⟩
    have hother := Scan.foldlM_withThreads ⟨s.options.withThreads m, none, s.onlyPaths⟩ n rfl back
    rw [hback] at hother
    exact hother
  · rw [Scan.step_of_crontab hpending hpaths hcrontab] at hvalue
    cases hvalue

end Timetable
