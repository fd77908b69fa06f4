import Timetable.Style
/-!
# Events

An event is one entry of a timeline: an occurrence of a job, or all its occurrences if they
have a cadence.

## Main definitions

- `Event` — an entry of a timeline
- `Event.toJson` — an event as an object
- `Classifier` — the cadence counts and the styles that events are made with
- `Classifier.events` — the events of a job
-/

namespace Timetable

/-- An entry of a timeline. One that stands for a single occurrence has no `finish`. -/
structure Event where
  start : Moment
  finish : Option Moment
  title : String
  description : String
  attributes : Attributes

namespace Event

def ownKeys : List String :=
  ["start", "end", "title", "description"]

/-- The event as an object: its own members, and its attributes after them. -/
def toJson (e : Event) : Json :=
  .obj (("start", .str e.start.isoText) ::
    (e.finish.map fun t => ("end", Json.str t.isoText)).toList ++
    ("title", .str e.title) :: ("description", .str e.description) :: e.attributes.entries)

end Event

/-- The attributes of events with all of some styles, a later style winning over an earlier
one, and none of the members that an event has of its own. -/
def layered (styles : List Style) : Attributes :=
  (styles.foldl (fun m style => m.merge style.attributes) Attributes.empty).eraseAll
    Event.ownKeys

/-- What turns the occurrences of jobs in one window into events. -/
structure Classifier where
  counts : CadenceCounts
  styles : StyleTable

namespace Classifier

/-- The classifier of a window with these styles. -/
def ofWindow (w : Window) (styles : StyleTable) : Classifier :=
  ⟨.ofWindow w, styles⟩

/-- The events of occurrences that are shown one by one. -/
def individualEvents (c : Classifier) (command : String) (times : List Moment) : List Event :=
  let attributes := layered [c.styles.default]
  times.map fun t =>
    { start := t
      finish := none
      title := String.ofList t.clockText ++ " " ++ command
      description := command
      attributes := attributes }

/-- The event of occurrences that are shown as a whole, from the first to the last. -/
def wholeEvent (c : Classifier) (style : Style) (command : String) (first last : Moment) :
    Event :=
  let title := style.titlePrefix ++ command
  { start := first
    finish := some last
    title := title
    description := title
    attributes := layered [c.styles.default, style] }

/-- The events of a job's occurrences, shown with a cadence. -/
def events (c : Classifier) (cadence : Cadence) (command : String) (times : List Moment) :
    List Event :=
  match c.styles.ofCadence cadence, times.head?, times.getLast? with
  | some style, some first, some last => [c.wholeEvent style command first last]
  | _, _, _ => c.individualEvents command times

end Classifier

end Timetable
