import Timetable.Event
/-!
# Jobs

A job is a schedule with everything that follows from it in one window.
-/

namespace Timetable

/-- A schedule, its occurrences in a window and their events. The number is the job's
position among the jobs of its crontab. -/
structure Job where
  id : Nat
  schedule : Schedule
  times : List Moment
  cadence : Cadence
  events : List Event

namespace Job

/-- The job with a number and a schedule, in the classifier's window. -/
def build (w : Window) (c : Classifier) (id : Nat) (schedule : Schedule) : Job :=
  let times := occurrences schedule w
  let cadence := c.counts.classify times.length
  ⟨id, schedule, times, cadence, c.events cadence schedule.command times⟩

/-- Whether one event stands for all occurrences. -/
def isRolledUp (job : Job) : Bool :=
  job.cadence ≠ .individual

end Job

end Timetable
