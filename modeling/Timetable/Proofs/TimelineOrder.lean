import Mathlib
import Timetable.Proofs.JobEvents
import Timetable.Proofs.Loading
import Timetable.Proofs.PaddedNumerals
import Timetable.Proofs.TitleOrder
/-!
# The order of a timeline

The events of a crontab are those of all its jobs, by title. To say which of two events comes
first, even if they are alike, each event is taken together with its job and its position there.
Titles decide, then jobs, then positions. The title of a single occurrence begins with its time
of day, written with two digits for the hour and for the minute, so that such events come in the
order of the clock, whatever their days and commands are.

## Main definitions

- `PlacedEvent` — an event with its job and its position there
- `PlacedEvent.Earlier` — the order of jobs and of positions
- `PlacedEvent.ClockBefore` — the order of the time of day, the command and the place
- `Crontab.placedEvents` — all events of a crontab, job by job

## Main statements

- `PlacedEvent.before_iff_clockBefore` — titles of single occurrences are ordered by the clock
- `events_in_order_of_titles` — the timeline of a crontab
-/

namespace Timetable

/-- An event with the job that shows it and its position among the events of that job. -/
structure PlacedEvent where
  job : Job
  position : Nat
  event : Event

namespace PlacedEvent

/-- The one event is of an earlier job, or of the same job and stands before the other there. -/
def Earlier (a b : PlacedEvent) : Prop :=
  a.job.id < b.job.id ∨ a.job.id = b.job.id ∧ a.position < b.position

/-- The title decides between two events, and their places if the title is the same. -/
def Before (a b : PlacedEvent) : Prop :=
  a.event.title < b.event.title ∨ a.event.title = b.event.title ∧ a.Earlier b

/-- The hour decides between two events, then the minute, then the command of the job, and their
places if all of these are the same. -/
def ClockBefore (a b : PlacedEvent) : Prop :=
  a.event.start.hour < b.event.start.hour ∨ a.event.start.hour = b.event.start.hour ∧
    (a.event.start.minute < b.event.start.minute ∨ a.event.start.minute = b.event.start.minute ∧
      (a.job.schedule.command < b.job.schedule.command ∨
        a.job.schedule.command = b.job.schedule.command ∧ a.Earlier b))

theorem Earlier.asymm {a b : PlacedEvent} (h : a.Earlier b) : ¬b.Earlier a := by
  simp only [Earlier] at h ⊢
  omega

theorem Before.asymm {a b : PlacedEvent} (h : a.Before b) : ¬b.Before a := by
  rcases h with hlt | ⟨heq, hearlier⟩
  · rintro (hlt' | ⟨heq', -⟩)
    · exact String.lt_asymm hlt hlt'
    · exact String.lt_irrefl _ (heq' ▸ hlt)
  · rintro (hlt' | ⟨-, hearlier'⟩)
    · exact String.lt_irrefl _ (heq ▸ hlt')
    · exact hearlier.asymm hearlier'

end PlacedEvent

/-! ## All events, job by job -/

/-- The events of a job with their positions. -/
def Job.placedEvents (job : Job) : List PlacedEvent :=
  job.events.mapIdx fun position event => ⟨job, position, event⟩

namespace Crontab

def placedEvents (c : Crontab) : List PlacedEvent :=
  c.jobs.flatMap Job.placedEvents

variable (c : Crontab)

theorem map_event_placedEvents :
    c.placedEvents.map PlacedEvent.event = c.jobs.flatMap Job.events := by
  have hjob : ∀ job : Job, job.placedEvents.map PlacedEvent.event = job.events := by
    intro job
    apply List.ext_getElem
    · rw [List.length_map, Job.placedEvents, List.length_mapIdx]
    · intro position _ _
      simp [Job.placedEvents]
  rw [placedEvents, List.map_flatMap]
  simp only [hjob]

theorem mem_placedEvents {a : PlacedEvent} :
    a ∈ c.placedEvents ↔ a.job ∈ c.jobs ∧ a.job.events[a.position]? = some a.event := by
  rw [placedEvents, List.mem_flatMap]
  constructor
  · rintro ⟨job, hjob, ha⟩
    obtain ⟨position, hposition, rfl⟩ := List.mem_mapIdx.1 ha
    exact ⟨hjob, List.getElem?_eq_getElem hposition⟩
  · rintro ⟨hjob, hevent⟩
    obtain ⟨hposition, hevent⟩ := List.getElem?_eq_some_iff.1 hevent
    refine ⟨a.job, hjob, List.mem_mapIdx.2 ⟨a.position, hposition, ?_⟩⟩
    rw [hevent]

/-- The jobs follow each other, and the events of each job do. -/
theorem pairwise_placedEvents (h : c.jobs.Pairwise fun a b => a.id < b.id) :
    c.placedEvents.Pairwise PlacedEvent.Earlier := by
  rw [placedEvents, List.pairwise_flatMap]
  refine ⟨?_, h.imp ?_⟩
  · intro job _
    rw [Job.placedEvents, List.pairwise_iff_getElem]
    intro i j _ _ hij
    simp only [List.getElem_mapIdx]
    exact .inr ⟨rfl, hij⟩
  · intro job job' hid a ha b hb
    obtain ⟨_, _, rfl⟩ := List.mem_mapIdx.1 ha
    obtain ⟨_, _, rfl⟩ := List.mem_mapIdx.1 hb
    exact .inl hid

/-- All events by title, those with the same title by their places. -/
def timelinePlaces : List PlacedEvent :=
  c.placedEvents.mergeSort fun a b => titleLe a.event.title b.event.title

theorem map_event_timelinePlaces : c.timelinePlaces.map PlacedEvent.event = c.events := by
  rw [c.events_eq, Event.sortByTitle, ← c.map_event_placedEvents]
  exact List.map_mergeSort fun _ _ _ _ => rfl

theorem mem_timelinePlaces {a : PlacedEvent} :
    a ∈ c.timelinePlaces ↔ a.job ∈ c.jobs ∧ a.job.events[a.position]? = some a.event := by
  rw [timelinePlaces, List.mem_mergeSort, c.mem_placedEvents]

theorem pairwise_timelinePlaces (h : c.jobs.Pairwise fun a b => a.id < b.id) :
    c.timelinePlaces.Pairwise PlacedEvent.Before :=
  pairwise_mergeSort_key_of_pairwise (fun a : PlacedEvent => a.event.title) _
    (c.pairwise_placedEvents h)

namespace Holds

variable {c} {w : Window} {styles : StyleTable} {schedules : List Schedule}

theorem exists_eq_build (h : c.Holds w styles schedules) {i : Nat} {job : Job}
    (hjob : c.jobs[i]? = some job) : ∃ s, job = Job.build w (.ofWindow w styles) i s := by
  rw [h.jobs, List.getElem?_mapIdx, Option.map_eq_some_iff] at hjob
  obtain ⟨s, -, rfl⟩ := hjob
  exact ⟨s, rfl⟩

/-- Jobs are numbered from zero on. -/
theorem id_eq (h : c.Holds w styles schedules) {i : Nat} {job : Job}
    (hjob : c.jobs[i]? = some job) : job.id = i := by
  obtain ⟨s, rfl⟩ := h.exists_eq_build hjob
  rfl

theorem pairwise_id (h : c.Holds w styles schedules) :
    c.jobs.Pairwise fun a b => a.id < b.id := by
  rw [List.pairwise_iff_getElem]
  intro i j hi hj hij
  rw [h.id_eq (List.getElem?_eq_getElem hi), h.id_eq (List.getElem?_eq_getElem hj)]
  exact hij

/-- The title of an event that has no end is its time of day and the command of its job. -/
theorem title_eq (h : c.Holds w styles schedules) {a : PlacedEvent} (ha : a ∈ c.timelinePlaces)
    (hfinish : a.event.finish = none) :
    a.event.title = String.ofList a.event.start.clockText ++ " " ++ a.job.schedule.command := by
  obtain ⟨hjob, hevent⟩ := c.mem_timelinePlaces.1 ha
  obtain ⟨i, hi⟩ := List.mem_iff_getElem?.1 hjob
  obtain ⟨s, hs⟩ := h.exists_eq_build hi
  have hmem := List.mem_of_getElem? hevent
  rw [hs] at hmem ⊢
  exact (Classifier.individual_of_finish_eq_none _ _ hmem hfinish).2.1

end Holds

end Crontab

/-! ## Two events -/

/-- In a list with an asymmetric order, the order says which of two members comes first. -/
theorem pair_sublist_iff {α : Type} {R : α → α → Prop} {as : List α} (h : as.Pairwise R)
    (hasymm : ∀ a b, R a b → ¬R b a) {a b : α} (ha : a ∈ as) (hb : b ∈ as) :
    [a, b].Sublist as ↔ R a b := by
  refine ⟨fun hab => List.pairwise_iff_forall_sublist.1 h hab, ?_⟩
  intro hab
  obtain ⟨front, back, rfl⟩ := List.append_of_mem ha
  obtain ⟨-, -, hacross⟩ := List.pairwise_append.1 h
  rcases List.mem_append.1 hb with hb | hb
  · exact absurd (hacross b hb a List.mem_cons_self) (hasymm a b hab)
  · rcases List.mem_cons.1 hb with rfl | hb
    · exact absurd hab (hasymm b b hab)
    · exact ((List.singleton_sublist.2 hb).cons_cons a).trans (List.sublist_append_right _ _)

namespace Moment

variable (t u : Moment) (command command' : String)

/-- Titles of single occurrences are ordered like their times of day and then their commands. -/
theorem clockTitle_lt_iff :
    String.ofList t.clockText ++ " " ++ command < String.ofList u.clockText ++ " " ++ command' ↔
      t.hour < u.hour ∨ t.hour = u.hour ∧
        (t.minute < u.minute ∨ t.minute = u.minute ∧ command < command') := by
  simp only [String.lt_iff_toList_lt, String.toList_append, String.toList_ofList,
    List.append_assoc]
  rw [clockText_append_lt_iff]
  simp

theorem clockTitle_eq_iff :
    String.ofList t.clockText ++ " " ++ command = String.ofList u.clockText ++ " " ++ command' ↔
      t.hour = u.hour ∧ t.minute = u.minute ∧ command = command' := by
  constructor
  · intro h
    -- Equal titles do not come before each other.
    have htu := clockTitle_lt_iff t u command command'
    have hut := clockTitle_lt_iff u t command' command
    rw [h, iff_false_left (String.lt_irrefl _)] at htu hut
    have hhour : t.hour = u.hour := by omega
    have hminute : t.minute = u.minute := by omega
    refine ⟨hhour, hminute, String.le_antisymm ?_ ?_⟩
    · exact fun hlt => hut (.inr ⟨hhour.symm, .inr ⟨hminute.symm, hlt⟩⟩)
    · exact fun hlt => htu (.inr ⟨hhour, .inr ⟨hminute, hlt⟩⟩)
  · rintro ⟨hhour, hminute, rfl⟩
    rw [clockText, clockText, hhour, hminute]

end Moment

theorem PlacedEvent.before_iff_clockBefore {a b : PlacedEvent}
    (ha : a.event.title =
      String.ofList a.event.start.clockText ++ " " ++ a.job.schedule.command)
    (hb : b.event.title =
      String.ofList b.event.start.clockText ++ " " ++ b.job.schedule.command) :
    a.Before b ↔ a.ClockBefore b := by
  rw [Before, ClockBefore, ha, hb, Moment.clockTitle_lt_iff, Moment.clockTitle_eq_iff]
  tauto

/-- The timeline of a crontab holds each event of each job exactly once. Events are in the order
of their titles, and those with the same title in the order of their jobs, which are numbered
from zero on, and in the job's own order. So of two events that stand for single occurrences
the one with the earlier time of day comes first, whatever the days and the commands are; if the
times of day agree, the commands decide, and then the jobs and the positions. -/
theorem events_in_order_of_titles (w : Window) (styles : StyleTable) (ops : List Operation) :
    let c := (Crontab.empty w styles).after ops
    c.events.Perm (c.jobs.flatMap Job.events) ∧
      (∀ (i : Nat) (job : Job), c.jobs[i]? = some job → job.id = i) ∧
      ∃ timeline : List PlacedEvent,
        timeline.map PlacedEvent.event = c.events ∧ timeline.Nodup ∧
          (∀ a, a ∈ timeline ↔ a.job ∈ c.jobs ∧ a.job.events[a.position]? = some a.event) ∧
          timeline.Pairwise PlacedEvent.Before ∧
          ∀ a ∈ timeline, ∀ b ∈ timeline,
            a.event.finish = none → b.event.finish = none →
              ([a, b].Sublist timeline ↔ a.ClockBefore b) := by
  intro c
  obtain ⟨schedules, -, h⟩ := (Crontab.holds_empty w styles).after ops
  have hpairwise := c.pairwise_timelinePlaces h.pairwise_id
  refine ⟨?_, fun i job => h.id_eq, c.timelinePlaces, c.map_event_timelinePlaces, ?_,
    fun a => c.mem_timelinePlaces, hpairwise, ?_⟩
  · rw [c.events_eq]
    exact Event.sortByTitle_perm _
  · exact hpairwise.imp fun hab heq => (heq ▸ hab).asymm (heq ▸ hab)
  · intro a ha b hb hafinish hbfinish
    rw [pair_sublist_iff hpairwise (fun _ _ => PlacedEvent.Before.asymm) ha hb]
    exact PlacedEvent.before_iff_clockBefore (h.title_eq ha hafinish) (h.title_eq hb hbfinish)

/-- The minute after midnight comes before the last minute of the day before, and of two events in
that minute the command decides, although its job was loaded later. -/
theorem events_in_order_of_titles_over_midnight :
    ∃ (w : Window) (c : Crontab) (timeline : List PlacedEvent) (late early other : PlacedEvent),
      Window.parse "2011-10-11 23:58" "2011-10-12 00:03" = .ok w ∧
        c = (Crontab.empty w .builtin).after
          [.loadText "59,1 23,0 * * * zeta\n1,2 0 * * * alpha"] ∧
        late.event.start.minuteText = "2011-10-11 23:59" ∧ late.event.title = "23:59 zeta" ∧
        early.event.start.minuteText = "2011-10-12 00:01" ∧ early.event.title = "00:01 zeta" ∧
        other.event.start.minuteText = "2011-10-12 00:01" ∧ other.event.title = "00:01 alpha" ∧
        late.job.id = 0 ∧ early.job.id = 0 ∧ other.job.id = 1 ∧
        timeline.map PlacedEvent.event = c.events ∧
        [early, late].Sublist timeline ∧ [other, early].Sublist timeline := by
  let w : Window :=
    ⟨⟨⟨2011, 10, 11, by decide⟩, 23, 58, 0, 0, by decide⟩,
      ⟨⟨2011, 10, 12, by decide⟩, 0, 3, 0, 0, by decide⟩,
      _, _, rfl, rfl, by decide, by decide, by decide, rfl, rfl⟩
  let c := (Crontab.empty w .builtin).after
    [.loadText "59,1 23,0 * * * zeta\n1,2 0 * * * alpha"]
  let s : Schedule :=
    ⟨⟨[59, 1]⟩, ⟨[23, 0]⟩, .full .day, .full .month, .full .weekday, "zeta"⟩
  let t : Schedule :=
    ⟨⟨[1, 2]⟩, ⟨[0]⟩, .full .day, .full .month, .full .weekday, "alpha"⟩
  let job := Job.build w (.ofWindow w .builtin) 0 s
  let job' := Job.build w (.ofWindow w .builtin) 1 t
  have hw : Window.parse "2011-10-11 23:58" "2011-10-12 00:03" = .ok w := by rfl
  have htext : Crontab.readText "59,1 23,0 * * * zeta\n1,2 0 * * * alpha" = .ok [s, t] := by rfl
  have hjobs : c.jobs = [job, job'] := by
    simp only [c, Crontab.after, Operation.perform, Crontab.loadText_eq, htext]
    rfl
  let late : PlacedEvent := ⟨job, 0, job.events.get ⟨0, by decide⟩⟩
  let early : PlacedEvent := ⟨job, 1, job.events.get ⟨1, by decide⟩⟩
  let other : PlacedEvent := ⟨job', 0, job'.events.get ⟨0, by decide⟩⟩
  obtain ⟨-, -, timeline, hevents, -, hmem, -, hclock⟩ := events_in_order_of_titles w .builtin
    [.loadText "59,1 23,0 * * * zeta\n1,2 0 * * * alpha"]
  have hplaced : ∀ a : PlacedEvent, a.job ∈ [job, job'] →
      a.job.events[a.position]? = some a.event → a ∈ timeline := by
    intro a hjob hevent
    rw [← hjobs] at hjob
    exact (hmem a).2 ⟨hjob, hevent⟩
  have hlate : late ∈ timeline :=
    hplaced late List.mem_cons_self (List.getElem?_eq_getElem _)
  have hearly : early ∈ timeline :=
    hplaced early List.mem_cons_self (List.getElem?_eq_getElem _)
  have hother : other ∈ timeline :=
    hplaced other (List.mem_cons_of_mem _ List.mem_cons_self) (List.getElem?_eq_getElem _)
  refine ⟨w, c, timeline, late, early, other, hw, rfl, by decide, by decide, by decide, by decide,
    by decide, by decide, rfl, rfl, rfl, hevents, ?_, ?_⟩
  · exact (hclock early hearly late hlate (by decide) (by decide)).2 (.inl (by decide))
  · exact (hclock other hother early hearly (by decide) (by decide)).2
      (.inr ⟨by decide, .inr ⟨by decide, .inl (by decide)⟩⟩)

end Timetable
