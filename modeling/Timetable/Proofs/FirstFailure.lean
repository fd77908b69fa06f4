import Mathlib
import Timetable.Proofs.ConfigurationText
import Timetable.Proofs.LineByLine
import Timetable.Proofs.OverriddenSettings
import Timetable.Proofs.Stages
/-!
# The first stage that fails

How a run ends is told by the first of its stages that fails, or else by the text of the timeline.
Each stage is told here by itself: what a configuration says, how the ends of the window are
settled, where the crontab comes from, which of its lines is the first bad one, and where the
output can be written. None of this asks for the number of workers.

## Main definitions

- `Start.Configured`, `Start.Settled`, `Start.source`, `Start.Reads` — what the first stages give
- `Start.Loads` — the crontab of a run
- `Crontab.Prints`, `Start.Emits` — the text of its timeline
- `Start.Fails` — what the first stage that fails says about it, and the files that it leaves
- `Storage.TakesAll` — storage that takes every text to its end

## Main statements

- `Start.loads_iff`, `Start.fails_iff` — the crontab and the failure that are computed
- `Start.not_fails_iff` — when no stage fails
- `Start.Fails.files_eq`, `Start.Fails.node?_eq` — what a failure leaves alone
- `Start.Fails.result_eq`, `Start.Emits.result_printed`, `Start.Emits.result_written` — how a run
  ends
-/

namespace Timetable

/-- Storage that takes every text to its end. -/
def Storage.TakesAll (storage : Storage) : Prop :=
  ∀ place text, storage place text = none

/-- The document with the events of a crontab, on one line or over several. -/
inductive Crontab.Prints (crontab : Crontab) : Bool → String → Prop
  | compact : Prints crontab false
      (Json.obj [("dateTimeFormat", .str "iso8601"),
        ("events", .arr (crontab.events.map Event.toJson))]).compact
  | pretty : Prints crontab true
      (Json.obj [("dateTimeFormat", .str "iso8601"),
        ("events", .arr (crontab.events.map Event.toJson))]).pretty

theorem Crontab.prints_iff {crontab : Crontab} {pretty : Bool} {text : String} :
    crontab.Prints pretty text ↔ crontab.timelineText pretty = text := by
  constructor
  · intro h
    cases h with
    | compact => rfl
    | pretty => rfl
  · rintro rfl
    cases pretty with
    | false => exact .compact
    | true => exact .pretty

namespace Start

variable (start : Start)

/-! ## The stages by themselves -/

/-- The configuration of a run: what its file says, or nothing set if there is no file. -/
inductive Configured : Config → Prop
  | file {path text : String} {c : Config} (hpath : start.configPath? = some path)
      (hread : start.files.readText path = .ok text) (h : c.WrittenIn text) : Configured c
  | nothing (hpath : start.configPath? = none) : Configured ⟨none, 1, .builtin⟩

/-- The window of a run with some configuration, or the first error in it. -/
def Settled (c : Config) (result : Except Error Window) : Prop :=
  ∃ first last,
    Settles start.options.earliest (c.window.map Bounds.earliest) start.today 0 0 first ∧
      Settles start.options.latest (c.window.map Bounds.latest) start.today 23 59 last ∧
      Window.Joins first last result

/-- The text of the crontab: the input if its path is a single dash, and else its file. -/
def source : Except FileFailure String :=
  if start.crontabPath = "-" then start.input else start.files.readText start.crontabPath

/-- The stages before the lines succeed with some configuration, window and text. -/
structure Reads (c : Config) (w : Window) (text : String) : Prop where
  config : start.Configured c
  window : start.Settled c (.ok w)
  source : start.source = .ok text

/-- The answers to the lines of a text, and the crontab after them. -/
def added (c : Config) (w : Window) (text : String) :
    List (Except Error (Option Nat)) × Crontab :=
  (Crontab.empty w c.styles).addLines (Text.linesOf text)

/-- The crontab of a run whose stages before the output succeed: all lines of the text have been
added, and none of them had an error. -/
inductive Loads : Crontab → Prop
  | intro {c : Config} {w : Window} {text : String} (hreads : start.Reads c w text)
      (hlines : ∀ answer ∈ (added c w text).1, ∃ id, answer = .ok id) : Loads (added c w text).2

/-- The text of the timeline, where all stages before the output succeed. -/
inductive Emits : String → Prop
  | intro {crontab : Crontab} {text : String} (hloads : start.Loads crontab)
      (hprints : crontab.Prints start.options.pretty text) : Emits text

/-- The first stage that fails, all stages before it being successful: what is said about it, what
this came from, and the files after it. Only a text that its storage does not take leaves a
beginning of it. -/
inductive Fails : String → List String → FileTree → Prop
  | configFile {path : String} {cause : FileFailure} (hpath : start.configPath? = some path)
      (h : start.files.readText path = .error cause) :
      Fails ("loading config " ++ path)
        ["Failed to read " ++ path ++ ": " ++ cause.text, cause.text] start.files
  | config {path text : String} (hpath : start.configPath? = some path)
      (hread : start.files.readText path = .ok text) (h : ∀ c : Config, ¬c.WrittenIn text) :
      Fails ("loading config " ++ path)
        ["Invalid configuration: " ++ start.explain text, start.explain text] start.files
  | window {c : Config} {cause : Error} (hconfig : start.Configured c)
      (h : start.Settled c (.error cause)) : Fails cause.message cause.causes start.files
  | input {c : Config} {w : Window} {cause : FileFailure} (hconfig : start.Configured c)
      (hwindow : start.Settled c (.ok w)) (hpath : start.crontabPath = "-")
      (h : start.input = .error cause) :
      Fails "reading crontab from stdin" [cause.text] start.files
  | crontabFile {c : Config} {w : Window} {cause : FileFailure} (hconfig : start.Configured c)
      (hwindow : start.Settled c (.ok w)) (hpath : start.crontabPath ≠ "-")
      (h : start.files.readText start.crontabPath = .error cause) :
      Fails ("Failed to read " ++ start.crontabPath ++ ": " ++ cause.text) [cause.text] start.files
  | line {c : Config} {w : Window} {text : String} {k : Nat} {cause : Error}
      (hreads : start.Reads c w text) (h : (added c w text).1[k]? = some (.error cause))
      (hbefore : ∀ i < k, ∃ id, (added c w text).1[i]? = some (.ok id)) :
      Fails ("Line " ++ toString (1 + k) ++ ": " ++ cause.message) (cause.message :: cause.causes)
        start.files
  | unopened {text path : String} {cause : FileFailure} (hemits : start.Emits text)
      (hpath : start.options.output = some path) (h : start.files.target path = .error cause) :
      Fails ("writing " ++ path) [cause.text] start.files
  | unfinished {text path : String} {place : List String} {fault : WriteFault}
      (hemits : start.Emits text) (hpath : start.options.output = some path)
      (hplace : start.files.target path = .ok place) (h : start.storage place text = some fault) :
      Fails ("writing " ++ path) [fault.failure.text]
        (start.files.put place (.beginning text fault.bytes))

/-! ## The stages as they are computed -/

section

variable {start} {c : Config} {w : Window} {text : String}

theorem config_of_readText {path : String} (hpath : start.configPath? = some path)
    (hread : start.files.readText path = .ok text) :
    start.config = (Config.parse text start.explain).mapError (.config path) := by
  simp only [config, hpath, hread, Config.load]

theorem config_of_unreadable {path : String} {cause : FileFailure}
    (hpath : start.configPath? = some path) (hread : start.files.readText path = .error cause) :
    start.config = .error (.config path (.unreadable path cause)) := by
  simp only [config, hpath, hread, Config.load, Except.mapError]

theorem config_of_nothing (hpath : start.configPath? = none) : start.config = .ok .default := by
  simp only [config, hpath]

theorem configured_iff : start.Configured c ↔ start.config = .ok c := by
  constructor
  · intro h
    cases h with
    | file hpath hread h =>
      rw [config_of_readText hpath hread, mapError_eq_ok_iff]
      exact Config.parse_eq_ok_iff.2 h
    | nothing hpath => exact config_of_nothing hpath
  · intro h
    cases hpath : start.configPath? with
    | none =>
      rw [config_of_nothing hpath] at h
      cases h
      exact .nothing hpath
    | some path =>
      cases hread : start.files.readText path with
      | error cause =>
        rw [config_of_unreadable hpath hread] at h
        cases h
      | ok text =>
        rw [config_of_readText hpath hread, mapError_eq_ok_iff] at h
        exact .file hpath hread (Config.parse_eq_ok_iff.1 h)

theorem settled_iff {result : Except Error Window} :
    start.Settled c result ↔
      resolveWindow start.options.earliest start.options.latest c.window start.today = result :=
  resolveWindow_eq_iff.symm

theorem settled_ok_iff : start.Settled c (.ok w) ↔ start.window c = .ok w := by
  rw [settled_iff, window, mapError_eq_ok_iff]

theorem source_eq_ok_iff : start.source = .ok text ↔ start.text = .ok text := by
  rw [source, Start.text]
  by_cases hpath : start.crontabPath = "-"
  · rw [if_pos hpath, if_pos hpath, mapError_eq_ok_iff]
  · rw [if_neg hpath, if_neg hpath, mapError_eq_ok_iff]

theorem Reads.crontab_eq (h : start.Reads c w text) :
    start.crontab = loaded ((Crontab.empty w c.styles).loadText text) :=
  crontab_of_text (configured_iff.1 h.config) (settled_ok_iff.1 h.window)
    (source_eq_ok_iff.1 h.source)

end

/-- Loading succeeds if adding the lines does, with the crontab that they leave. -/
theorem loaded_eq_ok_iff {empty crontab : Crontab} {text : String} :
    loaded (empty.loadText text) = .ok crontab ↔
      (∀ answer ∈ (empty.addLines (Text.linesOf text)).1, ∃ id, answer = .ok id) ∧
        (empty.addLines (Text.linesOf text)).2 = crontab := by
  have hanswer := empty.loadText_fst text
  have hafter := empty.loadText_snd text
  match hload : empty.loadText text with
  | (.ok count, after) =>
    rw [hload] at hanswer hafter
    obtain ⟨hlines, -⟩ := Crontab.collect_eq_ok_iff.1 hanswer.symm
    have hcrontab : after = (empty.addLines (Text.linesOf text)).2 := hafter
    rw [loaded, hcrontab, Except.ok.injEq]
    exact ⟨fun h => ⟨hlines, h⟩, fun h => h.2⟩
  | (.error cause, after) =>
    rw [hload] at hanswer
    constructor
    · intro h
      cases h
    · intro h
      rw [Crontab.collect_eq_ok_iff.2 ⟨h.1, rfl⟩] at hanswer
      cases hanswer

/-- The first bad line of a text is the error of loading it. -/
theorem firstError_iff {empty : Crontab} {text : String} {cause : Error} :
    Crontab.FirstError 1 (empty.addLines (Text.linesOf text)).1 cause ↔
      loaded (empty.loadText text) = .error (.crontab cause) := by
  rw [← Crontab.collect_eq_error_iff, ← Crontab.loadText_fst]
  match empty.loadText text with
  | (.ok _, _) => simp [loaded]
  | (.error _, _) => simp [loaded]

section

variable {start} {crontab : Crontab} {text : String} {failure : Failure}

theorem loads_iff : start.Loads crontab ↔ start.crontab = .ok crontab := by
  constructor
  · rintro ⟨hreads, hlines⟩
    rw [hreads.crontab_eq]
    exact loaded_eq_ok_iff.2 ⟨hlines, rfl⟩
  · intro h
    cases hconfig : start.config with
    | error failure =>
      rw [crontab_of_config_error hconfig] at h
      cases h
    | ok c =>
      rw [crontab_of_config hconfig, bind_eq_ok_iff] at h
      obtain ⟨w, hwindow, h⟩ := h
      obtain ⟨text, htext, h⟩ := bind_eq_ok_iff.1 h
      obtain ⟨hlines, rfl⟩ := loaded_eq_ok_iff.1 h
      exact .intro ⟨configured_iff.2 hconfig, settled_ok_iff.2 hwindow, source_eq_ok_iff.2 htext⟩
        hlines

theorem finish_of_error (h : start.crontab = .error failure) :
    start.finish = (.error failure, start.files) := by
  rw [finish, h]

/-- A text that is no configuration is what a run fails with, and an explanation of it. -/
theorem finish_of_unwritten {path : String} (hpath : start.configPath? = some path)
    (hread : start.files.readText path = .ok text) (h : ∀ c : Config, ¬c.WrittenIn text) :
    start.finish =
      (.error (.config path (@Error.invalidConfig (start.explain text))), start.files) := by
  have hconfig := config_of_readText hpath hread
  rw [Config.parse_eq_error_iff.2 ⟨rfl, h⟩] at hconfig
  exact finish_of_error (crontab_of_config_error hconfig)

theorem Emits.finish_eq (h : start.Emits text) : start.finish = start.deliver text := by
  obtain ⟨hloads, hprints⟩ := h
  rw [finish, loads_iff.1 hloads]
  exact congrArg start.deliver (Crontab.prints_iff.1 hprints)

/-- The text of the timeline is told by what a run starts from. -/
theorem Emits.unique {text' : String} (h : start.Emits text) (h' : start.Emits text') :
    text' = text := by
  obtain ⟨hloads, hprints⟩ := h
  obtain ⟨hloads', hprints'⟩ := h'
  have hcrontab := loads_iff.1 hloads
  rw [loads_iff.1 hloads'] at hcrontab
  cases hcrontab
  exact (Crontab.prints_iff.1 hprints').symm.trans (Crontab.prints_iff.1 hprints)

theorem emits_of_crontab (h : start.crontab = .ok crontab) :
    start.Emits (crontab.timelineText start.options.pretty) :=
  .intro (loads_iff.2 h) (Crontab.prints_iff.2 rfl)

/-! ## The first failure as it is computed -/

/-- A stage that fails is what a run fails with. -/
theorem Fails.exists_finish {message : String} {causes : List String} {files : FileTree}
    (h : start.Fails message causes files) :
    ∃ failure, start.finish = (.error failure, files) ∧ failure.message = message ∧
      failure.causes = causes := by
  cases h with
  | configFile hpath h =>
    have hconfig := config_of_unreadable hpath h
    exact ⟨_, finish_of_error (crontab_of_config_error hconfig), rfl, rfl⟩
  | config hpath hread h => exact ⟨_, finish_of_unwritten hpath hread h, rfl, rfl⟩
  | @window c cause hconfig h =>
    refine ⟨.window cause, finish_of_error ?_, rfl, rfl⟩
    rw [crontab_of_config (configured_iff.1 hconfig), Start.window, settled_iff.1 h]
    rfl
  | @input c w cause hconfig hwindow hpath h =>
    refine ⟨.input cause, finish_of_error ?_, rfl, rfl⟩
    rw [crontab_of_window (configured_iff.1 hconfig) (settled_ok_iff.1 hwindow), Start.text,
      if_pos hpath, h]
    rfl
  | @crontabFile c w cause hconfig hwindow hpath h =>
    refine ⟨.crontab (.unreadable start.crontabPath cause), finish_of_error ?_, rfl, rfl⟩
    rw [crontab_of_window (configured_iff.1 hconfig) (settled_ok_iff.1 hwindow), Start.text,
      if_neg hpath, h]
    rfl
  | @line c w text k cause hreads h hbefore =>
    refine ⟨.crontab (.atLine (1 + k) cause), finish_of_error ?_, rfl, rfl⟩
    rw [hreads.crontab_eq]
    exact firstError_iff.1 ⟨k, cause, rfl, h, hbefore⟩
  | @unopened text path cause hemits hpath h =>
    refine ⟨.output path cause, ?_, rfl, rfl⟩
    simp only [hemits.finish_eq, deliver, hpath, FileTree.writeText_of_target_error h]
  | @unfinished text path place fault hemits hpath hplace h =>
    refine ⟨.output path fault.failure, ?_, rfl, rfl⟩
    simp only [hemits.finish_eq, deliver, hpath, FileTree.writeText_of_fault hplace h]

theorem fails_of_config (h : start.config = .error failure) :
    start.Fails failure.message failure.causes start.files := by
  cases hpath : start.configPath? with
  | none =>
    rw [config_of_nothing hpath] at h
    cases h
  | some path =>
    cases hread : start.files.readText path with
    | error cause =>
      rw [config_of_unreadable hpath hread] at h
      cases h
      exact .configFile hpath hread
    | ok text =>
      rw [config_of_readText hpath hread, mapError_eq_error_iff] at h
      obtain ⟨cause, hparse, rfl⟩ := h
      obtain ⟨rfl, hwritten⟩ := Config.parse_eq_error_iff.1 hparse
      exact .config hpath hread hwritten

theorem fails_of_text {c : Config} {w : Window} (hconfig : start.Configured c)
    (hwindow : start.Settled c (.ok w)) (h : start.text = .error failure) :
    start.Fails failure.message failure.causes start.files := by
  rw [Start.text] at h
  by_cases hpath : start.crontabPath = "-"
  · rw [if_pos hpath, mapError_eq_error_iff] at h
    obtain ⟨cause, hinput, rfl⟩ := h
    exact .input hconfig hwindow hpath hinput
  · rw [if_neg hpath, mapError_eq_error_iff] at h
    obtain ⟨cause, hread, rfl⟩ := h
    exact .crontabFile hconfig hwindow hpath hread

theorem Reads.fails_of_loaded {c : Config} {w : Window} (hreads : start.Reads c w text)
    (h : loaded ((Crontab.empty w c.styles).loadText text) = .error failure) :
    start.Fails failure.message failure.causes start.files := by
  obtain ⟨cause, rfl⟩ : ∃ cause, failure = .crontab cause := by
    match hload : (Crontab.empty w c.styles).loadText text with
    | (.ok _, _) =>
      rw [hload] at h
      cases h
    | (.error cause, _) =>
      rw [hload] at h
      cases h
      exact ⟨cause, rfl⟩
  obtain ⟨k, cause, rfl, hline, hbefore⟩ := firstError_iff.2 h
  exact .line hreads hline hbefore

/-- A failure before the output is that of one of the stages before it. -/
theorem fails_of_crontab (h : start.crontab = .error failure) :
    start.Fails failure.message failure.causes start.files := by
  cases hconfig : start.config with
  | error cause =>
    rw [crontab_of_config_error hconfig] at h
    cases h
    exact fails_of_config hconfig
  | ok c =>
    have hconfigured := configured_iff.2 hconfig
    cases hwindow : start.window c with
    | error cause =>
      rw [crontab_of_config hconfig, hwindow] at h
      cases h
      obtain ⟨cause, hsettled, rfl⟩ := mapError_eq_error_iff.1 hwindow
      exact .window hconfigured (settled_iff.2 hsettled)
    | ok w =>
      have hsettled := settled_ok_iff.2 hwindow
      cases htext : start.text with
      | error cause =>
        rw [crontab_of_window hconfig hwindow, htext] at h
        cases h
        exact fails_of_text hconfigured hsettled htext
      | ok text =>
        have hreads : start.Reads c w text := ⟨hconfigured, hsettled, source_eq_ok_iff.2 htext⟩
        rw [hreads.crontab_eq] at h
        exact hreads.fails_of_loaded h

/-- A failure with the output is one to open its file or one of the storage. -/
theorem Emits.fails_of_deliver {files : FileTree} (hemits : start.Emits text)
    (h : start.deliver text = (.error failure, files)) :
    start.Fails failure.message failure.causes files := by
  cases hpath : start.options.output with
  | none => simp [deliver, hpath] at h
  | some path =>
    cases htarget : start.files.target path with
    | error cause =>
      simp only [deliver, hpath, FileTree.writeText_of_target_error htarget] at h
      cases h
      exact .unopened hemits hpath htarget
    | ok place =>
      cases hstorage : start.storage place text with
      | none => simp [deliver, hpath, FileTree.writeText_of_sound htarget hstorage] at h
      | some fault =>
        simp only [deliver, hpath, FileTree.writeText_of_fault htarget hstorage] at h
        cases h
        exact .unfinished hemits hpath htarget hstorage

theorem fails_iff {message : String} {causes : List String} {files : FileTree} :
    start.Fails message causes files ↔
      ∃ failure, start.finish = (.error failure, files) ∧ failure.message = message ∧
        failure.causes = causes := by
  constructor
  · exact Fails.exists_finish
  · rintro ⟨failure, hfinish, rfl, rfl⟩
    cases hcrontab : start.crontab with
    | error cause =>
      rw [finish_of_error hcrontab] at hfinish
      cases hfinish
      exact fails_of_crontab hcrontab
    | ok crontab =>
      have hemits := emits_of_crontab hcrontab
      rw [hemits.finish_eq] at hfinish
      exact hemits.fails_of_deliver hfinish

/-- No stage fails if there is the text of a timeline and its file, if one is named, takes it. -/
theorem not_fails_iff :
    (∀ message causes files, ¬start.Fails message causes files) ↔
      ∃ text, start.Emits text ∧ ∀ path, start.options.output = some path →
        ∃ place, start.files.target path = .ok place ∧ start.storage place text = none := by
  constructor
  · intro hnone
    cases hcrontab : start.crontab with
    | error failure => exact absurd (fails_of_crontab hcrontab) (hnone _ _ _)
    | ok crontab =>
      have hemits := emits_of_crontab hcrontab
      refine ⟨_, hemits, fun path hpath => ?_⟩
      cases htarget : start.files.target path with
      | error cause => exact absurd (.unopened hemits hpath htarget) (hnone _ _ _)
      | ok place =>
        cases hstorage : start.storage place (crontab.timelineText start.options.pretty) with
        | none => exact ⟨place, rfl, hstorage⟩
        | some fault => exact absurd (.unfinished hemits hpath htarget hstorage) (hnone _ _ _)
  · rintro ⟨text, hemits, hwritable⟩ message causes files h
    obtain ⟨failure, hfinish, -⟩ := h.exists_finish
    rw [hemits.finish_eq] at hfinish
    cases hpath : start.options.output with
    | none => simp [deliver, hpath] at hfinish
    | some path =>
      obtain ⟨place, htarget, hstorage⟩ := hwritable path hpath
      simp [deliver, hpath, FileTree.writeText_of_sound htarget hstorage] at hfinish

end

/-! ## What a failure leaves alone -/

section

variable {start} {message : String} {causes : List String} {files : FileTree}

theorem Fails.files_eq (h : start.Fails message causes files) (hstorage : start.storage.TakesAll) :
    files = start.files := by
  cases h with
  | unfinished _ _ _ h =>
    rw [hstorage] at h
    cases h
  | _ => rfl

/-- The beginning of a text can only be where the output should have been. -/
theorem Fails.node?_eq (h : start.Fails message causes files) {other : List String}
    (hother : ∀ path, start.options.output = some path → start.files.find path ≠ .ok other) :
    files.node? other = start.files.node? other := by
  cases h with
  | unfinished _ hpath hplace _ =>
    apply FileTree.node?_put_of_ne
    rintro rfl
    exact hother _ hpath (FileTree.target_eq_ok_iff.1 hplace).2.1
  | _ => rfl

end

/-! ## How a run ends -/

section

variable {start} {arguments : List String}
  (harguments : Request.ofArguments arguments = .ok (.timeline start.options))

include harguments

theorem Fails.result_eq {message : String} {causes : List String} {files : FileTree}
    (h : start.Fails message causes files) :
    start.result arguments =
      (⟨1, "", "Error: " ++ message ++ Failure.causedBy causes ++ "\n"⟩, files) := by
  obtain ⟨failure, hfinish, rfl, rfl⟩ := h.exists_finish
  rw [Start.result_eq harguments, hfinish]
  rfl

theorem status_eq_one_iff :
    (start.result arguments).1.status = 1 ↔
      ∃ message causes files, start.Fails message causes files := by
  constructor
  · intro hstatus
    rw [result_eq harguments] at hstatus
    match hfinish : start.finish with
    | (.ok _, _) =>
      rw [hfinish] at hstatus
      cases hstatus
    | (.error failure, files) => exact ⟨_, _, _, fails_iff.2 ⟨failure, hfinish, rfl, rfl⟩⟩
  · rintro ⟨message, causes, files, h⟩
    rw [h.result_eq harguments]

theorem Emits.result_printed {text : String} (h : start.Emits text)
    (hpath : start.options.output = none) :
    start.result arguments = (⟨0, text ++ "\n", ""⟩, start.files) := by
  rw [Start.result_eq harguments, h.finish_eq]
  simp only [deliver, hpath, outcomeOf]

theorem Emits.result_written {text path : String} {place : List String} (h : start.Emits text)
    (hpath : start.options.output = some path) (htarget : start.files.target path = .ok place)
    (hstorage : start.storage place text = none) :
    start.result arguments = (⟨0, "", ""⟩, start.files.put place (.file (some text))) := by
  rw [Start.result_eq harguments, h.finish_eq]
  simp only [deliver, hpath, FileTree.writeText_of_sound htarget hstorage, outcomeOf]

end

end Start

end Timetable
