import Mathlib
import Timetable.CommandLine.Run
import Timetable.Proofs.Files
import Timetable.Proofs.Interleavings
/-!
# The stages of a run

A run over files in memory has five stages that can fail: the configuration, the window, the
text of the crontab, its lines and the output. Each of them only reads, up to the last one. Here the
stages are computed one after the other, without the number of workers, and a run does what this
computation does.

## Main definitions

- `Start` — what a run starts from
- `Start.configPath?`, `Start.crontabPath` — where the configuration and the crontab are read from
- `Start.config`, `Start.window`, `Start.text` — the stages that read
- `Start.crontab`, `Start.deliver`, `Start.finish` — the stages together
- `Start.result` — what a run with some arguments does

## Main statements

- `Start.run_timeline` — a run goes through the stages in this order
- `Start.result_eq` — what a run with some arguments leaves behind
-/

namespace Timetable

/-- What a run starts from, besides its arguments as they were given. -/
structure Start where
  today : Date
  input : Except FileFailure String
  files : FileTree
  options : Options
  /-- What the reader of TOML says about a text that is no configuration. -/
  explain : String → String
  storage : Storage

namespace Start

variable (start : Start)

/-! ## The stages -/

/-- The configuration file: the one that is named, or else the one that is looked for, if it is
there. -/
def configPath? : Option String :=
  match start.options.config with
  | some path => some path
  | none => if start.files.isThere "cron_timeline.toml" then some "cron_timeline.toml" else none

def config : Except Failure Config :=
  match start.configPath? with
  | some path =>
    (Config.load path (start.files.readText path) start.explain).mapError (.config path)
  | none => .ok .default

def window (config : Config) : Except Failure Window :=
  (resolveWindow start.options.earliest start.options.latest config.window
    start.today).mapError .window

def crontabPath : String :=
  start.options.crontab.getD "crontab"

/-- The text of the crontab: the input if its path is a single dash, and else its file. -/
def text : Except Failure String :=
  if start.crontabPath = "-" then start.input.mapError .input
  else (start.files.readText start.crontabPath).mapError fun cause =>
    .crontab (.unreadable start.crontabPath cause)

end Start

/-! ## What the stages do -/

section

variable {α β : Type} {x : ExceptT Failure (StateM FileTree) α}
  {f : α → ExceptT Failure (StateM FileTree) β} {files files' : FileTree}

/-- A stage that succeeds is followed by the next one. -/
theorem run_bind_of_ok {a : α} (h : x.run.run files = (.ok a, files')) :
    (x >>= f).run.run files = (f a).run.run files' := by
  rw [ExceptT.run_bind, StateT.run_bind, h]
  rfl

/-- A stage that fails is the last one. -/
theorem run_bind_of_error {failure : Failure} (h : x.run.run files = (.error failure, files')) :
    (x >>= f).run.run files = (.error failure, files') := by
  rw [ExceptT.run_bind, StateT.run_bind, h]
  rfl

/-- The answer of a host is not a failure of the run. -/
theorem run_liftM (asked : StateM FileTree α) (files : FileTree) :
    (liftM asked : ExceptT Failure (StateM FileTree) α).run.run files =
      (.ok (asked.run files).1, (asked.run files).2) :=
  rfl

end

namespace Start

variable (start : Start)

/-- The host that a run asks. -/
def host : Host (StateM FileTree) :=
  Host.inMemory start.today start.input start.explain start.storage

theorem run_loadConfigFile (path : String) :
    (loadConfigFile start.host path).run.run start.files =
      ((Config.load path (start.files.readText path) start.explain).mapError (.config path),
        start.files) :=
  rfl

theorem run_loadConfig :
    (loadConfig start.host start.options.config).run.run start.files =
      (start.config, start.files) := by
  cases hnamed : start.options.config with
  | some path =>
    simp only [config, configPath?, hnamed]
    exact start.run_loadConfigFile path
  | none =>
    simp only [config, configPath?, hnamed]
    refine (run_bind_of_ok (run_liftM _ _)).trans ?_
    show (if start.files.isThere "cron_timeline.toml" = true then _ else _ :
      ExceptT Failure (StateM FileTree) Config).run.run start.files = _
    cases start.files.isThere "cron_timeline.toml" with
    | true => exact start.run_loadConfigFile "cron_timeline.toml"
    | false => rfl

/-- The crontab after loading, or the failure of its first bad line. -/
def loaded : Except Error Nat × Crontab → Except Failure Crontab
  | (.ok _, crontab) => .ok crontab
  | (.error cause, _) => .error (.crontab cause)

theorem run_loaded (result : Except Error Nat × Crontab) :
    (match result with
      | (.ok _, crontab) => pure crontab
      | (.error cause, _) => throw (.crontab cause) :
      ExceptT Failure (StateM FileTree) Crontab).run.run start.files =
        (loaded result, start.files) := by
  match result with
  | (.ok _, _) => rfl
  | (.error _, _) => rfl

theorem run_loadCrontab (empty : Crontab) :
    (loadCrontab start.host empty start.crontabPath).run.run start.files =
      (start.text >>= fun text => loaded (empty.loadText text), start.files) := by
  by_cases hpath : start.crontabPath = "-"
  · have hinput : start.crontabPath = inputPath := hpath
    simp only [text, loadCrontab, if_pos hpath, if_pos hinput]
    refine (run_bind_of_ok (run_liftM _ _)).trans ?_
    have hread : start.host.readInput.run start.files = (start.input, start.files) := rfl
    rw [hread]
    dsimp only
    cases start.input with
    | error failure => rfl
    | ok text => exact start.run_loaded (empty.loadText text)
  · have hfile : start.crontabPath ≠ inputPath := hpath
    simp only [text, loadCrontab, if_neg hpath, if_neg hfile]
    refine (run_bind_of_ok (run_liftM _ _)).trans ?_
    refine (start.run_loaded _).trans ?_
    show (loaded (empty.loadFile start.crontabPath (start.files.readText start.crontabPath)),
      start.files) = _
    cases start.files.readText start.crontabPath with
    | error failure => rfl
    | ok text => rfl

/-- The workers build the same crontab, or meet the same bad line. -/
theorem loaded_withThreads (c : Crontab) (threads : Nat) (text : String) :
    loaded ((c.withThreads threads).loadText text) =
      (loaded (c.loadText text)).map (·.withThreads threads) := by
  rw [Crontab.loadText_withThreads]
  match c.loadText text with
  | (.ok _, _) => rfl
  | (.error _, _) => rfl

theorem run_loadCrontab_withThreads (empty : Crontab) (threads : Nat) :
    (loadCrontab start.host (empty.withThreads threads) start.crontabPath).run.run start.files =
      ((start.text >>= fun text => loaded (empty.loadText text)).map (·.withThreads threads),
        start.files) := by
  rw [run_loadCrontab]
  cases start.text with
  | error failure => rfl
  | ok text => exact congrArg (·, start.files) (loaded_withThreads empty threads text)

/-- The crontab of a run, with one worker, or the first failure before the output. -/
def crontab : Except Failure Crontab := do
  let c ← start.config
  let w ← start.window c
  let text ← start.text
  loaded ((Crontab.empty w c.styles).loadText text)

section

variable {start} {c : Config} {w : Window} {text : String} {failure : Failure}

theorem crontab_of_config_error (hconfig : start.config = .error failure) :
    start.crontab = .error failure := by
  rw [crontab, hconfig]
  rfl

theorem crontab_of_config (hconfig : start.config = .ok c) :
    start.crontab = start.window c >>= fun w => start.text >>= fun text =>
      loaded ((Crontab.empty w c.styles).loadText text) := by
  rw [crontab, hconfig]
  rfl

theorem crontab_of_window (hconfig : start.config = .ok c) (hwindow : start.window c = .ok w) :
    start.crontab = start.text >>= fun text =>
      loaded ((Crontab.empty w c.styles).loadText text) := by
  rw [crontab_of_config hconfig, hwindow]
  rfl

theorem crontab_of_text (hconfig : start.config = .ok c) (hwindow : start.window c = .ok w)
    (htext : start.text = .ok text) :
    start.crontab = loaded ((Crontab.empty w c.styles).loadText text) := by
  rw [crontab_of_window hconfig hwindow, htext]
  rfl

end

/-- What becomes of the text of the timeline. -/
def deliver (text : String) : Except Failure String × FileTree :=
  match start.options.output with
  | none => (.ok (text ++ "\n"), start.files)
  | some path =>
    match start.files.writeText start.storage path text with
    | (.ok _, files) => (.ok "", files)
    | (.error cause, files) => (.error (.output path cause), files)

theorem deliver_of_output {path : String} (hpath : start.options.output = some path)
    (text : String) :
    start.deliver text =
      (((start.files.writeText start.storage path text).1.map fun _ => "").mapError (.output path),
        (start.files.writeText start.storage path text).2) := by
  simp only [deliver, hpath]
  match start.files.writeText start.storage path text with
  | (.ok _, files) => rfl
  | (.error cause, files) => rfl

theorem run_resolve (c : Config) :
    (ExceptT.mk (pure (start.window c)) : ExceptT Failure (StateM FileTree) Window).run.run
      start.files = (start.window c, start.files) :=
  rfl

theorem run_writeText (path text : String) :
    (start.host.writeText path text).run start.files =
      start.files.writeText start.storage path text :=
  rfl

theorem run_deliver (crontab : Crontab) :
    (match start.options.output with
      | none => pure (crontab.timelineText start.options.pretty ++ "\n")
      | some path => do
        match ← liftM (start.host.writeText path (crontab.timelineText start.options.pretty)) with
        | .ok _ => pure ""
        | .error cause => throw (.output path cause) :
      ExceptT Failure (StateM FileTree) String).run.run start.files =
        start.deliver (crontab.timelineText start.options.pretty) := by
  rw [deliver]
  cases start.options.output with
  | none => rfl
  | some path =>
    refine (run_bind_of_ok (run_liftM _ _)).trans ?_
    rw [run_writeText]
    dsimp only
    match start.files.writeText start.storage path (crontab.timelineText start.options.pretty) with
    | (.ok _, files) => rfl
    | (.error cause, files) => rfl

/-- A run up to what it prints, and the files after it. -/
def finish : Except Failure String × FileTree :=
  match start.crontab with
  | .error failure => (.error failure, start.files)
  | .ok crontab => start.deliver (crontab.timelineText start.options.pretty)

theorem run_timeline :
    (timeline start.host start.options).run.run start.files = start.finish := by
  rw [finish]
  have hconfigure := start.run_loadConfig
  cases hconfig : start.config with
  | error failure =>
    rw [hconfig] at hconfigure
    rw [crontab_of_config_error hconfig]
    exact run_bind_of_error hconfigure
  | ok c =>
    rw [hconfig] at hconfigure
    refine (run_bind_of_ok hconfigure).trans ?_
    refine (run_bind_of_ok (run_liftM _ _)).trans ?_
    have hresolve := start.run_resolve c
    -- The number of workers does not change what is configured for the window.
    show StateT.run (ExceptT.run (ExceptT.mk (pure (start.window c)) >>= _)) _ = _
    cases hwindow : start.window c with
    | error failure =>
      rw [hwindow] at hresolve
      rw [crontab_of_config hconfig, hwindow]
      exact run_bind_of_error hresolve
    | ok w =>
      rw [hwindow] at hresolve
      rw [crontab_of_window hconfig hwindow]
      refine (run_bind_of_ok hresolve).trans ?_
      have hload := start.run_loadCrontab_withThreads (Crontab.empty w c.styles)
        (start.options.threads.getD c.threads)
      cases hloaded : start.text >>= fun text =>
          loaded ((Crontab.empty w c.styles).loadText text) with
      | error failure =>
        rw [hloaded] at hload
        exact run_bind_of_error hload
      | ok crontab =>
        rw [hloaded] at hload
        exact (run_bind_of_ok hload).trans (start.run_deliver (crontab.withThreads _))

/-! ## Whole runs -/

/-- What a run leaves behind that prints a text or fails. -/
def outcomeOf : Except Failure String → Outcome
  | .ok output => ⟨0, output, ""⟩
  | .error failure => ⟨1, "", failure.report⟩

theorem exists_printed_of_status {answer : Except Failure String}
    (h : (outcomeOf answer).status = 0) : ∃ printed, answer = .ok printed := by
  cases answer with
  | ok printed => exact ⟨printed, rfl⟩
  | error failure => cases h

/-- What a run with some arguments leaves behind, and the files after it. -/
def result (arguments : List String) : Outcome × FileTree :=
  (run start.host arguments).run start.files

variable {start} in
theorem result_eq {arguments : List String}
    (harguments : Request.ofArguments arguments = .ok (.timeline start.options)) :
    start.result arguments = (outcomeOf start.finish.1, start.finish.2) := by
  simp only [result, run, harguments, StateT.run_bind]
  rw [← run_timeline]
  match (timeline start.host start.options).run.run start.files with
  | (.ok _, _) => rfl
  | (.error _, _) => rfl

end Start

end Timetable
