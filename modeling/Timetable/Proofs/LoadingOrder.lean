import Mathlib
import Timetable.Proofs.SkippedLines
import Timetable.Proofs.TitleOrder
/-!
# The order of loading

What a job shows does not depend on its number, so the timeline is made of the events of the
schedules. Loading the same schedules in another order permutes the jobs, and with them the
blocks of their events. Sorting by title undoes this, as far as each title belongs to the events
of one job only; the order within a job is that of its occurrences in any case.

## Main definitions

- `Schedule.eventsIn` — what a schedule shows in a window

## Main statements

- `Schedule.disjoint_titles` — commands that keep the titles of two jobs apart
- `flatMap_eq_of_perm` — blocks in another order, at most one of which is not empty
- `Crontab.Holds.events_eq_of_perm` — the same schedules in another order
- `timeline_independent_of_loading_order` — crontabs that were loaded in any two ways
-/

namespace Timetable

/-! ## What a schedule shows -/

/-- The events of a schedule's job, whatever its number. -/
def Schedule.eventsIn (s : Schedule) (w : Window) (styles : StyleTable) : List Event :=
  (Job.build w (.ofWindow w styles) 0 s).events

theorem Job.events_build (w : Window) (styles : StyleTable) (id : Nat) (s : Schedule) :
    (Job.build w (.ofWindow w styles) id s).events = s.eventsIn w styles :=
  rfl

/-- Whatever the cadence is, the title of an event ends with the command. -/
theorem Schedule.title_of_mem_eventsIn {s : Schedule} {w : Window} {styles : StyleTable}
    {e : Event} (he : e ∈ s.eventsIn w styles) :
    ∃ start : String, e.title = start ++ s.command := by
  rw [eventsIn, Job.build, Classifier.events] at he
  split at he
  · next style _ _ _ _ _ =>
    rw [List.mem_singleton.1 he]
    exact ⟨style.titlePrefix, rfl⟩
  · obtain ⟨t, -, rfl⟩ := List.mem_map.1 he
    exact ⟨String.ofList t.clockText ++ " ", rfl⟩

/-- Schedules have no titles in common if none of their commands ends with the other one. -/
theorem Schedule.disjoint_titles {s t : Schedule} (w : Window) (styles : StyleTable)
    (hst : ¬s.command.toList <:+ t.command.toList) (hts : ¬t.command.toList <:+ s.command.toList) :
    ((s.eventsIn w styles).map Event.title).Disjoint ((t.eventsIn w styles).map Event.title) := by
  intro title hs ht
  obtain ⟨e, he, rfl⟩ := List.mem_map.1 hs
  obtain ⟨f, hf, hef⟩ := List.mem_map.1 ht
  obtain ⟨start, hstart⟩ := Schedule.title_of_mem_eventsIn he
  obtain ⟨start', hstart'⟩ := Schedule.title_of_mem_eventsIn hf
  have hends : s.command.toList <:+ e.title.toList :=
    ⟨start.toList, by rw [hstart, String.toList_append]⟩
  have hends' : t.command.toList <:+ e.title.toList :=
    ⟨start'.toList, by rw [← hef, hstart', String.toList_append]⟩
  -- Of two ends of one title the shorter one is an end of the longer one.
  exact (List.suffix_or_suffix_of_suffix hends hends').elim hst hts

/-- If at most one block is not empty, the order of the blocks does not matter. -/
theorem flatMap_eq_of_perm {α β : Type} {f : α → List β} {as as' : List α} (hperm : as.Perm as')
    (h : as.Pairwise fun a b => f a = [] ∨ f b = []) : as.flatMap f = as'.flatMap f := by
  induction hperm with
  | nil => rfl
  | cons a _ ih => rw [List.flatMap_cons, List.flatMap_cons, ih (List.pairwise_cons.1 h).2]
  | swap a b as =>
    rw [List.pairwise_cons] at h
    simp only [List.flatMap_cons]
    rcases h.1 a List.mem_cons_self with hb | ha
    · rw [hb, List.nil_append, List.nil_append]
    · rw [ha, List.nil_append, List.nil_append]
  | trans hfirst _ ih ih' => exact (ih h).trans (ih' ((hfirst.pairwise_iff Or.symm).1 h))

namespace Crontab

/-- No two jobs have events with the same title. -/
def TitlesApart (c : Crontab) : Prop :=
  c.jobs.Pairwise fun a b => (a.events.map Event.title).Disjoint (b.events.map Event.title)

namespace Holds

variable {c c' : Crontab} {w : Window} {styles : StyleTable} {schedules schedules' : List Schedule}

theorem map_schedule (h : c.Holds w styles schedules) : c.jobs.map Job.schedule = schedules := by
  rw [h.jobs]
  apply List.ext_getElem
  · rw [List.length_map, List.length_mapIdx]
  · intro index _ _
    rw [List.getElem_map, List.getElem_mapIdx]
    rfl

theorem map_events (h : c.Holds w styles schedules) :
    c.jobs.map Job.events = schedules.map fun s => s.eventsIn w styles := by
  rw [h.jobs]
  apply List.ext_getElem
  · rw [List.length_map, List.length_map, List.length_mapIdx]
  · intro index _ _
    rw [List.getElem_map, List.getElem_map, List.getElem_mapIdx, Job.events_build]

theorem flatMap_events (h : c.Holds w styles schedules) :
    c.jobs.flatMap Job.events = schedules.flatMap fun s => s.eventsIn w styles := by
  rw [List.flatMap_def, h.map_events, List.flatMap_def]

/-- Which titles the jobs have in common is a matter of the schedules. -/
theorem titlesApart_iff (h : c.Holds w styles schedules) :
    c.TitlesApart ↔ schedules.Pairwise fun s t =>
      ((s.eventsIn w styles).map Event.title).Disjoint ((t.eventsIn w styles).map Event.title) := by
  have hjobs := List.pairwise_map (l := c.jobs) (f := Job.events)
    (R := fun a b => (a.map Event.title).Disjoint (b.map Event.title))
  rw [TitlesApart, ← hjobs, h.map_events, List.pairwise_map]

theorem titles_eq_of_perm (h : c.Holds w styles schedules) (h' : c'.Holds w styles schedules')
    (hperm : schedules.Perm schedules') :
    c.events.map Event.title = c'.events.map Event.title := by
  rw [c.events_eq, c'.events_eq, Event.map_title_sortByTitle, Event.map_title_sortByTitle,
    h.flatMap_events, h'.flatMap_events]
  apply mergeSort_titleLe_of_perm
  exact (hperm.flatMap_right _).map Event.title

/-- The events with some title are all of one job, so that they stay together in their order
wherever this job is. -/
theorem filter_title_eq_of_perm (h : c.Holds w styles schedules)
    (h' : c'.Holds w styles schedules') (hperm : schedules.Perm schedules')
    (hapart : c.TitlesApart) (title : String) :
    (c.jobs.flatMap Job.events).filter (fun e => e.title = title) =
      (c'.jobs.flatMap Job.events).filter fun e => e.title = title := by
  rw [h.flatMap_events, h'.flatMap_events, List.filter_flatMap, List.filter_flatMap]
  apply flatMap_eq_of_perm hperm
  apply (h.titlesApart_iff.1 hapart).imp
  intro s t hdisjoint
  by_contra hboth
  rw [not_or] at hboth
  obtain ⟨e, he⟩ := List.exists_mem_of_ne_nil _ hboth.1
  obtain ⟨f, hf⟩ := List.exists_mem_of_ne_nil _ hboth.2
  rw [List.mem_filter, decide_eq_true_iff] at he hf
  apply hdisjoint (List.mem_map.2 ⟨e, he.1, he.2⟩)
  exact List.mem_map.2 ⟨f, hf.1, hf.2⟩

theorem events_eq_of_perm (h : c.Holds w styles schedules) (h' : c'.Holds w styles schedules')
    (hperm : schedules.Perm schedules') (hapart : c.TitlesApart) : c.events = c'.events := by
  rw [c.events_eq, c'.events_eq]
  exact Event.sortByTitle_congr (h.filter_title_eq_of_perm h' hperm hapart)

end Holds

theorem timelineText_congr {c c' : Crontab} (h : c.events = c'.events) (pretty : Bool) :
    c.timelineText pretty = c'.timelineText pretty := by
  simp only [timelineText, timeline, h]

end Crontab

/-- Two crontabs for the same window and styles that have the same schedules, loaded in whatever
ways and in whatever orders, show events with the same titles in the same order. If no title is
carried by the events of two jobs, the events are the same, and so is the text of the timeline
in both layouts. -/
theorem timeline_independent_of_loading_order (w : Window) (styles : StyleTable)
    (ops ops' : List Operation)
    (hperm : (((Crontab.empty w styles).after ops).jobs.map Job.schedule).Perm
      (((Crontab.empty w styles).after ops').jobs.map Job.schedule)) :
    ((Crontab.empty w styles).after ops).events.map Event.title =
        ((Crontab.empty w styles).after ops').events.map Event.title ∧
      (((Crontab.empty w styles).after ops).TitlesApart →
        ((Crontab.empty w styles).after ops).events =
            ((Crontab.empty w styles).after ops').events ∧
          ∀ pretty : Bool, ((Crontab.empty w styles).after ops).timelineText pretty =
            ((Crontab.empty w styles).after ops').timelineText pretty) := by
  have h := (Crontab.holds_empty w styles).after_takenLines ops
  have h' := (Crontab.holds_empty w styles).after_takenLines ops'
  rw [h.map_schedule, h'.map_schedule] at hperm
  refine ⟨h.titles_eq_of_perm h' hperm, ?_⟩
  intro hapart
  have hevents := h.events_eq_of_perm h' hperm hapart
  exact ⟨hevents, Crontab.timelineText_congr hevents⟩

/-- Two jobs of several days, added line by line or loaded from a text by several workers. -/
theorem timeline_independent_of_loading_order_two_ways :
    ∃ (w : Window) (ops ops' : List Operation) (a b : Schedule),
      Window.parse "2011-10-11 09:00" "2011-10-14 09:00" = .ok w ∧
        Schedule.parse "0 9 11,12 10 * backup" = .ok a ∧
        Schedule.parse "0,30 9 11,12 10 * report" = .ok b ∧
        ops = [.addLine "0,30 9 11,12 10 * report", .loadText "0 9 11,12 10 * backup"] ∧
        ops' = [.withThreads 3, .loadText "0 9 11,12 10 * backup\n0,30 9 11,12 10 * report"] ∧
        ((Crontab.empty w .builtin).after ops).jobs.map Job.schedule = [b, a] ∧
        ((Crontab.empty w .builtin).after ops').jobs.map Job.schedule = [a, b] ∧
        ((Crontab.empty w .builtin).after ops).events.map Event.title =
          ((Crontab.empty w .builtin).after ops').events.map Event.title ∧
        ((Crontab.empty w .builtin).after ops).TitlesApart ∧
        ((Crontab.empty w .builtin).after ops).events =
          ((Crontab.empty w .builtin).after ops').events ∧
        ((Crontab.empty w .builtin).after ops).timelineText true =
          ((Crontab.empty w .builtin).after ops').timelineText true := by
  let w : Window :=
    ⟨⟨⟨2011, 10, 11, by decide⟩, 9, 0, 0, 0, by decide⟩,
      ⟨⟨2011, 10, 14, by decide⟩, 9, 0, 0, 0, by decide⟩,
      _, _, rfl, rfl, by decide, by decide, by decide, rfl, rfl⟩
  let a : Schedule :=
    { minute := ⟨[0]⟩, hour := ⟨[9]⟩, day := ⟨[11, 12]⟩, month := ⟨[10]⟩,
      weekday := .full .weekday, command := "backup" }
  let b : Schedule := { a with minute := ⟨[0, 30]⟩, command := "report" }
  have hw : Window.parse "2011-10-11 09:00" "2011-10-14 09:00" = .ok w := by rfl
  have ha : Schedule.parse "0 9 11,12 10 * backup" = .ok a := by rfl
  have hb : Schedule.parse "0,30 9 11,12 10 * report" = .ok b := by rfl
  have hone : Crontab.readText "0 9 11,12 10 * backup" = .ok [a] := by rfl
  have htwo : Crontab.readText "0 9 11,12 10 * backup\n0,30 9 11,12 10 * report" =
      .ok [a, b] := by rfl
  let ops : List Operation :=
    [.addLine "0,30 9 11,12 10 * report", .loadText "0 9 11,12 10 * backup"]
  let ops' : List Operation :=
    [.withThreads 3, .loadText "0 9 11,12 10 * backup\n0,30 9 11,12 10 * report"]
  have h : ((Crontab.empty w .builtin).after ops).Holds w .builtin [b, a] := by
    simp only [ops, Crontab.after, Operation.perform, Crontab.addLine_of_parse _ hb,
      Crontab.loadText_eq, hone]
    exact ((Crontab.holds_empty w .builtin).adding [b]).adding [a]
  have h' : ((Crontab.empty w .builtin).after ops').Holds w .builtin [a, b] := by
    simp only [ops', Crontab.after, Operation.perform, Crontab.loadText_eq, htwo]
    have hworkers : ((Crontab.empty w .builtin).withThreads 3).Holds w .builtin [] :=
      ⟨rfl, rfl, rfl⟩
    exact hworkers.adding [a, b]
  have hperm : (((Crontab.empty w .builtin).after ops).jobs.map Job.schedule).Perm
      (((Crontab.empty w .builtin).after ops').jobs.map Job.schedule) := by
    rw [h.map_schedule, h'.map_schedule]
    exact List.Perm.swap a b []
  have hapart : ((Crontab.empty w .builtin).after ops).TitlesApart := by
    rw [h.titlesApart_iff, List.pairwise_pair]
    exact Schedule.disjoint_titles w .builtin (by decide) (by decide)
  obtain ⟨htitles, hall⟩ := timeline_independent_of_loading_order w .builtin ops ops' hperm
  obtain ⟨hevents, htext⟩ := hall hapart
  exact ⟨w, ops, ops', a, b, hw, ha, hb, rfl, rfl, h.map_schedule, h'.map_schedule, htitles,
    hapart, hevents, htext true⟩

end Timetable
