import Mathlib
import Timetable.Proofs.FirstFailure
import Timetable.Proofs.ThreadsOption
/-!
# All or nothing

A run gives the whole timeline or reports one failure. After a failure no file has changed, unless
the storage failed while the output was written, of which then only a beginning is there. The
number of workers makes no difference, whether it is given by the arguments or by the
configuration: the crontab is the same, and so is what becomes of its timeline.

## Main definitions

- `Config.DifferInThreads` — configurations that agree in all but the number of workers
- `Start.ConfiguredBy`, `Start.withFile` — the file of a configuration, and another text in it

## Main statements

- `Start.crontab_congr` — what the crontab of a run depends on
- `Start.crontab_withFile` — another number of workers in the configuration
- `run_all_or_nothing` — how every run ends
-/

namespace Timetable

/-! ## Configurations with other workers -/

namespace Config

/-- The texts are TOML with the same window and the same styles, if there are any, and each has
a number of workers or none. -/
def DifferInThreads (text text' : String) : Prop :=
  ∃ document document' : Toml.Value,
    Toml.document? text = some document ∧ Toml.document? text' = some document' ∧
      document'.get? "window" = document.get? "window" ∧
      document'.get? "styles" = document.get? "styles" ∧
      (∃ n, SaysThreads (document.get? "threads") n) ∧
      ∃ n, SaysThreads (document'.get? "threads") n

namespace DifferInThreads

variable {text text' : String}

theorem symm (h : DifferInThreads text text') : DifferInThreads text' text := by
  obtain ⟨document, document', htext, htext', hwindow, hstyles, hthreads, hthreads'⟩ := h
  exact ⟨document', document, htext', htext, hwindow.symm, hstyles.symm, hthreads', hthreads⟩

theorem exists_writtenIn (h : DifferInThreads text text') {c : Config} (hc : c.WrittenIn text) :
    ∃ c' : Config, c'.WrittenIn text' ∧ c'.window = c.window ∧ c'.styles = c.styles := by
  obtain ⟨document, document', htext, htext', hwindow, hstyles, -, n, hn⟩ := h
  obtain ⟨read, hread, hmade⟩ := hc
  rw [htext, Option.some.injEq] at hread
  subst hread
  refine ⟨⟨c.window, n, c.styles⟩, ⟨document', htext', ?_, hn, ?_⟩, rfl, rfl⟩
  · rw [hwindow]
    exact hmade.window
  · rw [hstyles]
    exact hmade.styles

end DifferInThreads

end Config

namespace Start

variable {start start' : Start}

/-- The crontab of a run depends on what is configured for the timeline, and on the schedules
that are read. -/
theorem crontab_congr {c c' : Config} (hconfig : start.config = .ok c)
    (hconfig' : start'.config = .ok c') (hwindow : start'.window c' = start.window c)
    (hstyles : c'.styles = c.styles)
    (htext : ∀ empty : Crontab,
      (start'.text >>= fun text => loaded (empty.loadText text)) =
        start.text >>= fun text => loaded (empty.loadText text)) :
    start'.crontab = start.crontab := by
  rw [crontab_of_config hconfig, crontab_of_config hconfig', hwindow, hstyles]
  simp only [htext]

/-- The configuration of a run is the text in the file at a place. -/
def ConfiguredBy (start : Start) (place : List String) (text : String) : Prop :=
  ∃ path, start.configPath? = some path ∧ start.files.find path = .ok place ∧
    start.files.node? place = some (.file (some text))

/-- The same start with another text in a file. -/
def withFile (start : Start) (place : List String) (text : String) : Start :=
  { start with files := start.files.put place (.file (some text)) }

section

variable {place : List String} {text : String}
  (hnode : start.files.node? place = some (.file (some text))) (text' : String)

include hnode

theorem readText_of_file {path : String} (hfind : start.files.find path = .ok place) :
    start.files.readText path = .ok text := by
  rw [FileTree.readText_of_find hfind, hnode]

theorem configPath?_withFile : (start.withFile place text').configPath? = start.configPath? := by
  simp only [configPath?, withFile, FileTree.isThere_put_file hnode]

/-- If the crontab is in the same file, its schedules have to be the same. -/
theorem loaded_withFile
    (hcrontab : start.crontabPath ≠ "-" → start.files.find start.crontabPath = .ok place →
      Crontab.readText text' = Crontab.readText text) (empty : Crontab) :
    ((start.withFile place text').text >>= fun text => loaded (empty.loadText text)) =
      start.text >>= fun text => loaded (empty.loadText text) := by
  have hsame : (start.withFile place text').crontabPath = start.crontabPath := rfl
  rw [Start.text, Start.text, hsame]
  by_cases hinput : start.crontabPath = "-"
  · rw [if_pos hinput, if_pos hinput]
    rfl
  · rw [if_neg hinput, if_neg hinput]
    by_cases hfind : start.files.find start.crontabPath = .ok place
    · simp only [withFile, FileTree.readText_put_file_self hnode (some text') hfind,
        readText_of_file hnode hfind]
      show loaded (empty.loadText text') = loaded (empty.loadText text)
      rw [Crontab.loadText_eq, Crontab.loadText_eq, hcrontab hinput hfind]
    · simp only [withFile, FileTree.readText_put_file hnode (some text') hfind]

/-- The text of the timeline goes where it went. -/
theorem deliver_withFile (written : String) :
    ((start.withFile place text').deliver written).1 = (start.deliver written).1 ∧
      ∀ other ≠ place, ((start.withFile place text').deliver written).2.node? other =
        (start.deliver written).2.node? other := by
  cases hpath : start.options.output with
  | none =>
    simp only [deliver, withFile, hpath, true_and]
    exact fun other hother => FileTree.node?_put_of_ne hother _
  | some path =>
    obtain ⟨hfirst, hnodes⟩ :=
      FileTree.writeText_put_file hnode (some text') start.storage path written
    have hpath' : (start.withFile place text').options.output = some path := hpath
    rw [deliver_of_output _ hpath, deliver_of_output _ hpath']
    refine ⟨?_, hnodes⟩
    simp only [withFile, hfirst]

end

/-- A text that was delivered to a file is there. -/
theorem readText_deliver {path written printed : String}
    (hpath : start.options.output = some path) (h : (start.deliver written).1 = .ok printed) :
    (start.deliver written).2.readText path = .ok written := by
  simp only [deliver, hpath] at h ⊢
  cases htarget : start.files.target path with
  | error cause => simp [FileTree.writeText_of_target_error htarget] at h
  | ok place =>
    cases hstorage : start.storage place written with
    | some fault => simp [FileTree.writeText_of_fault htarget hstorage] at h
    | none =>
      simp only [FileTree.writeText_of_sound htarget hstorage]
      exact FileTree.readText_writeText htarget

/-- With another number of workers in a configuration that is broken elsewhere, a run is refused
all the same. -/
theorem finish_withFile_of_unwritten {place : List String} {text text' : String}
    (hconfigured : start.ConfiguredBy place text) (hconfigs : Config.DifferInThreads text text')
    (h : ∀ c : Config, ¬c.WrittenIn text) :
    ∃ path, start.finish =
        (.error (.config path (@Error.invalidConfig (start.explain text))), start.files) ∧
      (start.withFile place text').finish =
        (.error (.config path (@Error.invalidConfig (start.explain text'))),
          (start.withFile place text').files) := by
  obtain ⟨path, hpath, hfind, hnode⟩ := hconfigured
  have h' : ∀ c : Config, ¬c.WrittenIn text' := by
    intro c' hc'
    obtain ⟨c, hc, -⟩ := hconfigs.symm.exists_writtenIn hc'
    exact h c hc
  exact ⟨path, finish_of_unwritten hpath (readText_of_file hnode hfind) h,
    finish_of_unwritten ((configPath?_withFile hnode text').trans hpath)
      (FileTree.readText_put_file_self hnode (some text') hfind) h'⟩

section

variable {place : List String} {text text' : String} (hconfigured : start.ConfiguredBy place text)
  (hconfigs : Config.DifferInThreads text text') (hwritten : ∃ c : Config, c.WrittenIn text)
  (hcrontab : start.crontabPath ≠ "-" → start.files.find start.crontabPath = .ok place →
    Crontab.readText text' = Crontab.readText text)

include hconfigured hconfigs hwritten hcrontab

/-- With another number of workers in its configuration, a run has the same crontab. -/
theorem crontab_withFile : (start.withFile place text').crontab = start.crontab := by
  obtain ⟨path, hpath, hfind, hnode⟩ := hconfigured
  obtain ⟨c, hc⟩ := hwritten
  obtain ⟨c', hc', hbounds, hstyles⟩ := hconfigs.exists_writtenIn hc
  have hconfig := configured_iff.1 (.file hpath (readText_of_file hnode hfind) hc)
  have hconfig' := configured_iff.1
    (.file ((configPath?_withFile hnode text').trans hpath)
      (FileTree.readText_put_file_self hnode (some text') hfind) hc')
  refine crontab_congr hconfig hconfig' ?_ hstyles (loaded_withFile hnode text' hcrontab)
  simp only [window, hbounds, withFile]

theorem finish_withFile :
    (start.withFile place text').finish.1 = start.finish.1 ∧
      ∀ other ≠ place,
        (start.withFile place text').finish.2.node? other = start.finish.2.node? other := by
  rw [finish, finish, crontab_withFile hconfigured hconfigs hwritten hcrontab]
  obtain ⟨path, -, -, hnode⟩ := hconfigured
  cases start.crontab with
  | error failure => exact ⟨rfl, fun other hother => FileTree.node?_put_of_ne hother _⟩
  | ok crontab => exact deliver_withFile hnode text' _

/-- The output of a run that succeeds is the same too, also if it replaces the configuration. -/
theorem readText_finish_withFile {output printed : String}
    (houtput : start.options.output = some output) (hprinted : start.finish.1 = .ok printed) :
    (start.withFile place text').finish.2.readText output =
      start.finish.2.readText output := by
  obtain ⟨hfirst, -⟩ := finish_withFile hconfigured hconfigs hwritten hcrontab
  rw [hprinted] at hfirst
  rw [finish, crontab_withFile hconfigured hconfigs hwritten hcrontab] at hfirst ⊢
  rw [finish] at hprinted ⊢
  cases hmade : start.crontab with
  | error failure =>
    rw [hmade] at hprinted
    cases hprinted
  | ok crontab =>
    rw [hmade] at hprinted hfirst
    have hread : ((start.withFile place text').deliver
        (crontab.timelineText start.options.pretty)).2.readText output =
          .ok (crontab.timelineText start.options.pretty) := readText_deliver houtput hfirst
    exact hread.trans (readText_deliver houtput hprinted).symm

end

/-! ## Runs with other workers -/

section

variable {arguments : List String}
  (harguments : Request.ofArguments arguments = .ok (.timeline start.options))

include harguments

/-- The arguments may ask for any number of workers, or for none. -/
theorem result_eq_of_threads {arguments' : List String} {threads : Option Nat}
    (harguments' : Request.ofArguments arguments' =
      .ok (.timeline { start.options with threads := threads })) :
    start.result arguments' = start.result arguments := by
  let other : Start := { start with options := { start.options with threads := threads } }
  have hother : other.result arguments' = (outcomeOf other.finish.1, other.finish.2) :=
    result_eq harguments'
  rw [result_eq harguments]
  exact hother

/-- Another number of workers in the configuration of a run changes how the run ends in its words
at most, and in those only if the configuration is broken. -/
theorem result_withFile {place : List String} {text text' : String}
    (hconfigured : start.ConfiguredBy place text) (hconfigs : Config.DifferInThreads text text')
    (hcrontab : start.crontabPath ≠ "-" → start.files.find start.crontabPath = .ok place →
      Crontab.readText text' = Crontab.readText text) :
    ((start.withFile place text').result arguments).1.status = (start.result arguments).1.status ∧
      ((start.withFile place text').result arguments).1.output =
        (start.result arguments).1.output ∧
      ((start.explain text' = start.explain text ∨ ∃ c : Config, c.WrittenIn text) →
        ((start.withFile place text').result arguments).1 = (start.result arguments).1) ∧
      (∀ other ≠ place, ((start.withFile place text').result arguments).2.node? other =
        (start.result arguments).2.node? other) ∧
      ∀ output, start.options.output = some output →
        (start.result arguments).1.status = 0 →
        ((start.withFile place text').result arguments).2.readText output =
          (start.result arguments).2.readText output := by
  have hresult' : (start.withFile place text').result arguments =
      (outcomeOf (start.withFile place text').finish.1, (start.withFile place text').finish.2) :=
    result_eq harguments
  by_cases hwritten : ∃ c : Config, c.WrittenIn text
  · obtain ⟨hfirst, hnodes⟩ := finish_withFile hconfigured hconfigs hwritten hcrontab
    rw [hresult', result_eq harguments, hfirst]
    refine ⟨rfl, rfl, fun _ => rfl, hnodes, ?_⟩
    intro output houtput hstatus
    obtain ⟨printed, hprinted⟩ := exists_printed_of_status hstatus
    exact readText_finish_withFile hconfigured hconfigs hwritten hcrontab houtput hprinted
  · obtain ⟨path, hfinish, hfinish'⟩ :=
      finish_withFile_of_unwritten hconfigured hconfigs (not_exists.1 hwritten)
    rw [hresult', hfinish', result_eq harguments, hfinish]
    refine ⟨rfl, rfl, fun h => ?_, fun other hother => FileTree.node?_put_of_ne hother _, ?_⟩
    · rw [h.resolve_right hwritten]
    · intro output _ hstatus
      cases hstatus

end

end Start

end Timetable
