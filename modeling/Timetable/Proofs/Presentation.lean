import Mathlib
import Timetable.Proofs.JobEvents
import Timetable.Proofs.Loading
/-!
# What styles do not change

Styles say how events look. Two crontabs for one window that are given the same operations, but
have other styles, answer in the same way, and their jobs are alike in pairs: only the titles, the
descriptions and the attributes of their events may differ. These come from the default style and
from the style of the job's own cadence, so that the styles of other cadences do not count for it.

## Main definitions

- `StyleTable.AgreeFor` — two tables with the same styles for a cadence
- `Job.Alike` — two jobs that differ in what the styles say at most
- `Crontab.answers` — the answers to some operations
- `Crontab.Alike` — two crontabs for one window with the same jobs but for the styles

## Main statements

- `Classifier.events_congr` — which styles count for the events of a cadence
- `Crontab.Alike.perform`, `Crontab.Alike.after` — an operation and a run on two crontabs
- `styles_affect_presentation_only` — any operations on two empty crontabs
-/

namespace Timetable

/-! ## Events and jobs -/

/-- The tables have the same default style, and the same style of the cadence if it has one. -/
def StyleTable.AgreeFor (t t' : StyleTable) (cadence : Cadence) : Prop :=
  t.default = t'.default ∧ t.ofCadence cadence = t'.ofCadence cadence

namespace Classifier

variable {c c' : Classifier} {cadence : Cadence}

/-- The events of a cadence are made with the default style and that of the cadence alone. -/
theorem events_congr (h : c.styles.AgreeFor c'.styles cadence) (command : String)
    (times : List Moment) : c.events cadence command times = c'.events cadence command times := by
  obtain ⟨hdefault, hcadence⟩ := h
  simp only [events, individualEvents, wholeEvent, hdefault, hcadence]

/-- With any styles there are as many events, with the same ends. -/
theorem forall₂_events (c c' : Classifier) (cadence : Cadence) (command : String)
    (times : List Moment) :
    List.Forall₂ (fun e e' => e.start = e'.start ∧ e.finish = e'.finish)
      (c.events cadence command times) (c'.events cadence command times) := by
  by_cases hcadence : cadence = .individual
  · rw [hcadence, events_individual, events_individual, individualEvents, individualEvents,
      List.forall₂_map_left_iff, List.forall₂_map_right_iff, List.forall₂_same]
    exact fun t _ => ⟨rfl, rfl⟩
  · by_cases htimes : times = []
    · rw [htimes, events_nil, events_nil]
      exact .nil
    · obtain ⟨style, first, last, -, hfirst, hlast, hevents⟩ :=
        c.exists_events_eq_whole command hcadence htimes
      obtain ⟨style', first', last', -, hfirst', hlast', hevents'⟩ :=
        c'.exists_events_eq_whole command hcadence htimes
      obtain rfl : first = first' := Option.some.inj (hfirst.symm.trans hfirst')
      obtain rfl : last = last' := Option.some.inj (hlast.symm.trans hlast')
      rw [hevents, hevents']
      exact .cons ⟨rfl, rfl⟩ .nil

end Classifier

namespace Job

/-- The jobs are the same but for what the styles of the two tables say about their events. If the
tables agree for their cadence, they are the same altogether. -/
structure Alike (styles styles' : StyleTable) (job job' : Job) : Prop where
  id : job.id = job'.id
  schedule : job.schedule = job'.schedule
  times : job.times = job'.times
  cadence : job.cadence = job'.cadence
  events : List.Forall₂ (fun e e' => e.start = e'.start ∧ e.finish = e'.finish)
    job.events job'.events
  eq_of_agree : styles.AgreeFor styles' job.cadence → job = job'

/-- Which cadence a job has is a matter of the counts, whatever the styles are. -/
theorem alike_build (c c' : Classifier) (hcounts : c.counts = c'.counts) (w : Window) (id : Nat)
    (s : Schedule) : Alike c.styles c'.styles (build w c id s) (build w c' id s) := by
  have hcadence : (build w c id s).cadence = (build w c' id s).cadence := by
    rw [cadence_eq, cadence_eq, hcounts]
  refine ⟨rfl, rfl, rfl, hcadence, ?_, ?_⟩
  · rw [events_eq, events_eq, ← hcadence]
    exact c.forall₂_events c' _ _ _
  · intro hagree
    rw [cadence_eq] at hagree
    rw [build, build, ← hcounts, Classifier.events_congr hagree]

end Job

/-! ## Operations on two crontabs -/

namespace Crontab

/-- The answers to some operations, one after the other. -/
def answers (c : Crontab) : List Operation → List (Except Error Answer)
  | [] => []
  | op :: later => (op.perform c).1 :: answers (op.perform c).2 later

/-- The crontabs are for one window, with one table of styles each, and their jobs are alike in
pairs. -/
structure Alike (w : Window) (styles styles' : StyleTable) (c c' : Crontab) : Prop where
  window : c.window = w
  window' : c'.window = w
  classifier : c.classifier = .ofWindow w styles
  classifier' : c'.classifier = .ofWindow w styles'
  jobs : List.Forall₂ (Job.Alike styles styles') c.jobs c'.jobs

theorem alike_empty (w : Window) (styles styles' : StyleTable) :
    Alike w styles styles' (empty w styles) (empty w styles') :=
  ⟨rfl, rfl, rfl, rfl, .nil⟩

namespace Alike

variable {w : Window} {styles styles' : StyleTable} {c c' : Crontab}

theorem furtherJobs (h : Alike w styles styles' c c') (schedules : List Schedule) :
    List.Forall₂ (Job.Alike styles styles') (c.furtherJobs schedules)
      (c'.furtherJobs schedules) := by
  rw [List.forall₂_iff_get]
  simp only [Crontab.furtherJobs, List.length_mapIdx, List.get_eq_getElem, List.getElem_mapIdx,
    h.window, h.window', h.classifier, h.classifier', h.jobs.length_eq, true_and]
  intro index _ _
  exact Job.alike_build (.ofWindow w styles) (.ofWindow w styles') rfl w _ _

theorem adding (h : Alike w styles styles' c c') (schedules : List Schedule) :
    Alike w styles styles' (c.adding schedules) (c'.adding schedules) where
  window := h.window
  window' := h.window'
  classifier := h.classifier
  classifier' := h.classifier'
  jobs := List.rel_append h.jobs (h.furtherJobs schedules)

theorem addLine (h : Alike w styles styles' c c') (line : String) :
    (c.addLine line).1 = (c'.addLine line).1 ∧
      Alike w styles styles' (c.addLine line).2 (c'.addLine line).2 := by
  rw [addLine_eq, addLine_eq]
  by_cases hline : isScheduleLine line = true
  · rw [if_pos hline, if_pos hline]
    cases Schedule.parse line with
    | ok schedule => exact ⟨by rw [h.jobs.length_eq], h.adding [schedule]⟩
    | error error => exact ⟨rfl, h⟩
  · rw [if_neg hline, if_neg hline]
    exact ⟨rfl, h⟩

theorem loadText (h : Alike w styles styles' c c') (text : String) :
    (c.loadText text).1 = (c'.loadText text).1 ∧
      Alike w styles styles' (c.loadText text).2 (c'.loadText text).2 := by
  rw [loadText_eq, loadText_eq]
  cases readText text with
  | ok schedules => exact ⟨rfl, h.adding schedules⟩
  | error error => exact ⟨rfl, h⟩

/-- What an operation answers has nothing to do with styles, and it leaves crontabs alike. -/
theorem perform (h : Alike w styles styles' c c') (op : Operation) :
    (op.perform c).1 = (op.perform c').1 ∧
      Alike w styles styles' (op.perform c).2 (op.perform c').2 := by
  cases op with
  | addLine line => exact (h.addLine line).imp_left (congrArg (Except.map Answer.added))
  | loadText text => exact (h.loadText text).imp_left (congrArg (Except.map Answer.loaded))
  | loadFile path content =>
    cases content with
    | ok text => exact (h.loadText text).imp_left (congrArg (Except.map Answer.loaded))
    | error failure => exact ⟨rfl, h⟩
  | withThreads threads =>
    exact ⟨rfl, h.window, h.window', h.classifier, h.classifier', h.jobs⟩

theorem after (h : Alike w styles styles' c c') (ops : List Operation) :
    c.answers ops = c'.answers ops ∧ Alike w styles styles' (c.after ops) (c'.after ops) := by
  induction ops generalizing c c' with
  | nil => exact ⟨rfl, h⟩
  | cons op later ih =>
    obtain ⟨hanswer, hop⟩ := h.perform op
    obtain ⟨hanswers, hlater⟩ := ih hop
    refine ⟨?_, hlater⟩
    rw [answers, answers, hanswer, hanswers]

/-- The jobs of a cadence for which the tables agree are the same. -/
theorem jobs_eq_of_agree (h : Alike w styles styles' c c') {cadence : Cadence}
    (hagree : styles.AgreeFor styles' cadence) :
    List.Forall₂ (fun job job' => job.cadence = cadence → job = job') c.jobs c'.jobs := by
  refine h.jobs.imp fun job job' halike hcadence => halike.eq_of_agree ?_
  rwa [hcadence]

end Alike

end Crontab

/-- Whatever is done to an empty crontab, the answers do not depend on the styles, and for any two
tables the jobs agree in pairs in all but the titles, descriptions and attributes of their events.
If the tables have the same default style, then the jobs without a cadence are the same, and so are
those of each cadence whose own style is the same, whatever the style of the other cadence is. -/
theorem styles_affect_presentation_only (w : Window) (styles styles' : StyleTable)
    (ops : List Operation) :
    (Crontab.empty w styles).answers ops = (Crontab.empty w styles').answers ops ∧
      List.Forall₂ (fun job job' => job.id = job'.id ∧ job.schedule = job'.schedule ∧
          job.times = job'.times ∧ job.cadence = job'.cadence ∧
          job.events.length = job'.events.length ∧
          List.Forall₂ (fun e e' => e.start = e'.start ∧ e.finish = e'.finish)
            job.events job'.events)
        ((Crontab.empty w styles).after ops).jobs ((Crontab.empty w styles').after ops).jobs ∧
      (styles.default = styles'.default →
        List.Forall₂ (fun job job' => job.cadence = .individual → job = job')
            ((Crontab.empty w styles).after ops).jobs ((Crontab.empty w styles').after ops).jobs ∧
          ∀ cadence, styles.ofCadence cadence = styles'.ofCadence cadence →
            List.Forall₂ (fun job job' => job.cadence = cadence → job = job')
              ((Crontab.empty w styles).after ops).jobs
              ((Crontab.empty w styles').after ops).jobs) := by
  obtain ⟨hanswers, h⟩ := (Crontab.alike_empty w styles styles').after ops
  refine ⟨hanswers, ?_, ?_⟩
  · refine h.jobs.imp fun job job' halike => ?_
    exact ⟨halike.id, halike.schedule, halike.times, halike.cadence, halike.events.length_eq,
      halike.events⟩
  · intro hdefault
    exact ⟨h.jobs_eq_of_agree ⟨hdefault, rfl⟩,
      fun cadence hcadence => h.jobs_eq_of_agree ⟨hdefault, hcadence⟩⟩

/-- Two tables that differ in the style of every minute only, and a line with an error. The jobs
for single occurrences and for every five minutes are the same, that for every minute is not. -/
theorem styles_affect_presentation_only_of_cadence :
    ∃ (w : Window) (styles styles' : StyleTable) (ops : List Operation)
      (tick poll noon tick' poll' noon' : Job),
      Window.parse "2011-10-11 11:57" "2011-10-11 12:08" = .ok w ∧
        ops = [.withThreads 2, .loadText "* 11,12 11 10 * tick\n\n*/5 11,12 11 10 * poll",
          .addLine "0 x * * * no", .addLine "0 12 11 10 * noon"] ∧
        styles.default = styles'.default ∧
        styles.ofCadence .everyFiveMinutes = styles'.ofCadence .everyFiveMinutes ∧
        (Crontab.empty w styles).answers ops = [.ok .done, .ok (.loaded 2),
          .error (.invalidToken .hour "x"), .ok (.added (some 2))] ∧
        (Crontab.empty w styles').answers ops = (Crontab.empty w styles).answers ops ∧
        ((Crontab.empty w styles).after ops).jobs = [tick, poll, noon] ∧
        ((Crontab.empty w styles').after ops).jobs = [tick', poll', noon'] ∧
        tick.cadence = .everyMinute ∧ poll.cadence = .everyFiveMinutes ∧
        noon.cadence = .individual ∧ poll = poll' ∧ noon = noon' ∧
        tick.events.length = tick'.events.length ∧
        tick.events.map Event.title = ["Every minute: tick"] ∧
        tick'.events.map Event.title = ["All the time: tick"] := by
  let w : Window :=
    ⟨⟨⟨2011, 10, 11, by decide⟩, 11, 57, 0, 0, by decide⟩,
      ⟨⟨2011, 10, 11, by decide⟩, 12, 8, 0, 0, by decide⟩,
      _, _, rfl, rfl, by decide, by decide, by decide, rfl, rfl⟩
  let styles' : StyleTable :=
    { StyleTable.builtin with everyMinute := ⟨"All the time: ", .ofList [("width", .int 9)]⟩ }
  let ops : List Operation :=
    [.withThreads 2, .loadText "* 11,12 11 10 * tick\n\n*/5 11,12 11 10 * poll",
      .addLine "0 x * * * no", .addLine "0 12 11 10 * noon"]
  let tick : Schedule :=
    ⟨.full .minute, ⟨[11, 12]⟩, ⟨[11]⟩, ⟨[10]⟩, .full .weekday, "tick"⟩
  let poll : Schedule := { tick with minute := .every .minute 5, command := "poll" }
  let noon : Schedule := { tick with minute := ⟨[0]⟩, hour := ⟨[12]⟩, command := "noon" }
  have hread : Crontab.readText "* 11,12 11 10 * tick\n\n*/5 11,12 11 10 * poll" =
      .ok [tick, poll] := by rfl
  have hbad : Schedule.parse "0 x * * * no" = .error (.invalidToken .hour "x") := by rfl
  have hnoon : Schedule.parse "0 12 11 10 * noon" = .ok noon := by rfl
  have hline : isScheduleLine "0 x * * * no" = true := by rfl
  have hline' : isScheduleLine "0 12 11 10 * noon" = true := by rfl
  have hafter : ∀ styles, (Crontab.empty w styles).after ops =
      (((Crontab.empty w styles).withThreads 2).adding [tick, poll]).adding [noon] := by
    intro styles
    simp only [ops, Crontab.after, Operation.perform, Crontab.loadText_eq, hread,
      Crontab.addLine_eq, hline, hline', hbad, hnoon, if_true]
  obtain ⟨hanswers, hpairs, hequal⟩ :=
    styles_affect_presentation_only w .builtin styles' ops
  obtain ⟨hindividual, hcadence⟩ := hequal rfl
  have hfive := hcadence .everyFiveMinutes rfl
  rw [hafter, hafter] at hpairs hindividual hfive
  have hanswer : (Crontab.empty w .builtin).answers ops = [.ok .done, .ok (.loaded 2),
      .error (.invalidToken .hour "x"), .ok (.added (some 2))] := by
    simp only [ops, Crontab.answers, Operation.perform, Crontab.loadText_eq, hread,
      Crontab.addLine_eq, hline, hline', hbad, hnoon, if_true]
    rfl
  have htick : (Job.build w (.ofWindow w .builtin) 0 tick).cadence = .everyMinute := by decide
  have hpoll : (Job.build w (.ofWindow w .builtin) 1 poll).cadence = .everyFiveMinutes := by decide
  have hsingle : (Job.build w (.ofWindow w .builtin) 2 noon).cadence = .individual := by decide
  have htitle : (Job.build w (.ofWindow w .builtin) 0 tick).events.map Event.title =
      ["Every minute: tick"] := by decide
  have htitle' : (Job.build w (.ofWindow w styles') 0 tick).events.map Event.title =
      ["All the time: tick"] := by decide
  obtain ⟨⟨-, -, -, -, hlength, -⟩, -⟩ := List.forall₂_cons.1 hpairs
  obtain ⟨-, hpolls⟩ := List.forall₂_cons.1 hfive
  obtain ⟨-, hsingles⟩ := List.forall₂_cons.1 (List.forall₂_cons.1 hindividual).2
  exact ⟨w, .builtin, styles', ops, _, _, _, _, _, _, rfl, rfl, rfl, rfl, hanswer, hanswers.symm,
    congrArg Crontab.jobs (hafter _), congrArg Crontab.jobs (hafter _), htick, hpoll, hsingle,
    (List.forall₂_cons.1 hpolls).1 hpoll, (List.forall₂_cons.1 hsingles).1 hsingle, hlength,
    htitle, htitle'⟩

end Timetable
