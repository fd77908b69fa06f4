import Timetable.Job
import Timetable.Job.Pool
import Timetable.Json.Printer
import Timetable.Text.Lines
/-!
# Crontabs

A crontab is the jobs that were loaded for one window, numbered in the order of their lines.
Each way of loading answers with a result and the crontab after it; after an error that is
the crontab as it was.

## Main definitions

- `Crontab` — a window, its classifier and the jobs loaded for it
- `Crontab.addLine`, `Crontab.loadText`, `Crontab.loadFile` — ways of loading
- `Crontab.withThreads` — how many workers build the jobs of a text
- `Crontab.events` — the events of all jobs, by title
- `Crontab.timeline` — the document made of them
-/

namespace Timetable

structure Crontab where
  window : Window
  classifier : Classifier
  threads : Nat
  jobs : List Job

namespace Crontab

/-- The crontab without jobs, with one worker. -/
def empty (w : Window) (styles : StyleTable) : Crontab :=
  ⟨w, .ofWindow w styles, 1, []⟩

/-- Sets the number of workers; there is always one. -/
def withThreads (c : Crontab) (threads : Nat) : Crontab :=
  { c with threads := max threads 1 }

def buildJob (c : Crontab) (item : Nat × Schedule) : Job :=
  Job.build c.window c.classifier item.1 item.2

/-- The jobs of numbered schedules, one after the other. -/
def buildInOrder (c : Crontab) (items : List (Nat × Schedule)) : List Job :=
  items.map c.buildJob

/-- The jobs of numbered schedules, built by the workers of a pool and put back into the
order of their numbers. -/
def buildInPool (c : Crontab) (items : List (Nat × Schedule)) : List Job :=
  (Pool.run c.buildJob (min c.threads items.length) items).mergeSort fun a b => a.id ≤ b.id

def build (c : Crontab) (items : List (Nat × Schedule)) : List Job :=
  if 1 < c.threads ∧ 1 < items.length then c.buildInPool items else c.buildInOrder items

/-- Adds the job of a schedule line and gives its number. Other lines add nothing. -/
def addLine (c : Crontab) (line : String) : Except Error (Option Nat) × Crontab :=
  if isScheduleLine line then
    match Schedule.parse line with
    | .ok schedule =>
      let id := c.jobs.length
      (.ok (some id), { c with jobs := c.jobs ++ [c.buildJob (id, schedule)] })
    | .error error => (.error error, c)
  else (.ok none, c)

/-- The schedules of lines of which the first has number `n`, or the first error in one. -/
def readLines (n : Nat) : List String → Except Error (List Schedule)
  | [] => .ok []
  | line :: later =>
    if isScheduleLine line then
      match Schedule.parse line with
      | .ok schedule => (readLines (n + 1) later).map (schedule :: ·)
      | .error error => .error (.atLine n error)
    else readLines (n + 1) later

def readText (text : String) : Except Error (List Schedule) :=
  readLines 1 ((Text.lines text.toList).map String.ofList)

/-- Adds the jobs of all schedule lines of a text and gives their number. All lines are read
before any job is built, so that a text with an error adds nothing. -/
def loadText (c : Crontab) (text : String) : Except Error Nat × Crontab :=
  match readText text with
  | .ok schedules =>
    let items := schedules.mapIdx fun index schedule => (c.jobs.length + index, schedule)
    (.ok schedules.length, { c with jobs := c.jobs ++ c.build items })
  | .error error => (.error error, c)

/-- Adds the jobs of a file, given what reading the file gave. -/
def loadFile (c : Crontab) (path : String) (content : Except FileFailure String) :
    Except Error Nat × Crontab :=
  match content with
  | .ok text => c.loadText text
  | .error failure => (.error (.unreadable path failure), c)

/-- The events of all jobs in the order of their titles. Events with the same title stay in
the order of their jobs. -/
def events (c : Crontab) : List Event :=
  (c.jobs.flatMap Job.events).mergeSort fun a b => a.title ≤ b.title

def timeline (c : Crontab) : Json :=
  .obj [("dateTimeFormat", .str "iso8601"), ("events", .arr (c.events.map Event.toJson))]

/-- The text of the timeline document, on one line or over several. -/
def timelineText (c : Crontab) (pretty : Bool) : String :=
  if pretty then c.timeline.pretty else c.timeline.compact

end Crontab

end Timetable
