import Timetable.Schedule
import Timetable.Window
/-!
# Occurrences

The occurrences of a schedule in a window are its moments there, in the order of the
schedule's own lists: years ascend, and within a year the months, days, hours and minutes
come as their fields list them. Numbers that form no date or no time of day are passed over.
The weekday picks among the days.

A number out of its domain can have the key of a real minute. Its candidate then passes the
comparison of keys, and fails to be a date or a time.

## Main definitions

- `occurrences` — the occurrences, candidates compared by their keys first
- `firstOccurrences` — the first of them, computing no more days than it needs
- `countOccurrences` — their number, one day at a time
- `plainOccurrences` — the same occurrences without keys or shortcuts
-/

namespace Timetable

namespace Schedule

/-- Whether the weekday column lets a day through. One that lists all weekdays does not look
at the day. -/
def allowsWeekday (s : Schedule) (date : Date) : Bool :=
  s.weekday.coversDomain || s.weekday.contains date.weekday

/-- The days of a year on which the schedule fires, with those left out that the window
cannot reach. -/
def daysIn (s : Schedule) (w : Window) (year : Int) : List Date :=
  s.month.values.flatMap fun month =>
    s.day.values.filterMap fun day =>
      if w.admitsDay (StampKey.of year.toNat month day 0 0) then
        (Date.of? year month day).filter s.allowsWeekday
      else none

/-- The moments of a day at which the schedule fires within the window. -/
def timesOn (s : Schedule) (w : Window) (date : Date) : List Moment :=
  s.hour.values.flatMap fun hour =>
    s.minute.values.filterMap fun minute =>
      if w.admits (StampKey.of date.year.toNat date.month date.day hour minute) then
        Moment.ofMinute? date hour minute
      else none

end Schedule

def occurrences (s : Schedule) (w : Window) : List Moment :=
  w.years.flatMap fun year => (s.daysIn w year).flatMap (s.timesOn w)

/-- The first `n` elements of the blocks of `xs` put together, where `block m x` holds the
first `m` elements of the block of `x`. Blocks that are not needed are not computed. -/
def takeBlocks {α β : Type} (block : Nat → α → List β) : Nat → List α → List β
  | 0, _ => []
  | _ + 1, [] => []
  | n + 1, x :: xs =>
    let head := block (n + 1) x
    head ++ takeBlocks block (n + 1 - head.length) xs

def firstOccurrences (s : Schedule) (w : Window) (n : Nat) : List Moment :=
  takeBlocks (fun n year =>
    takeBlocks (fun n date => (s.timesOn w date).take n) n (s.daysIn w year)) n w.years

def countOccurrences (s : Schedule) (w : Window) : Nat :=
  w.years.foldl (fun total year =>
    (s.daysIn w year).foldl (fun total date => total + (s.timesOn w date).length) total) 0

/-- The occurrences once more: every combination of a year from that of the earliest minute to that
of the latest one and of the fields' values that is a minute of the calendar, lies in the window
and falls on a listed weekday. -/
def plainOccurrences (s : Schedule) (w : Window) : List Moment :=
  let first := w.earliest.date.year.toNat
  let last := w.latest.date.year.toNat
  (List.range' first (last + 1 - first)).flatMap fun (year : Nat) =>
    s.month.values.flatMap fun month =>
      s.day.values.flatMap fun day =>
        s.hour.values.flatMap fun hour =>
          s.minute.values.filterMap fun minute =>
            ((Date.of? year month day).bind (Moment.ofMinute? · hour minute)).filter fun t =>
              w.contains t && s.weekday.contains t.date.weekday

/-- Blocks cut to the length asked for are enough for a prefix of that length. -/
theorem takeBlocks_eq_take {α β : Type} {block : Nat → α → List β} {whole : α → List β}
    (h : ∀ n x, block n x = (whole x).take n) (n : Nat) (xs : List α) :
    takeBlocks block n xs = (xs.flatMap whole).take n := by
  induction xs generalizing n with
  | nil => cases n <;> simp [takeBlocks]
  | cons x xs ih =>
    cases n with
    | zero => simp [takeBlocks]
    | succ n =>
      rw [takeBlocks, ih, h, List.flatMap_cons, List.take_append, List.length_take]
      congr 2
      omega

theorem firstOccurrences_eq_take (s : Schedule) (w : Window) (n : Nat) :
    firstOccurrences s w n = (occurrences s w).take n :=
  takeBlocks_eq_take (fun n _ => takeBlocks_eq_take (fun _ _ => rfl) n _) n _

theorem countOccurrences_eq_length (s : Schedule) (w : Window) :
    countOccurrences s w = (occurrences s w).length := by
  have days (total : Nat) (dates : List Date) :
      dates.foldl (fun total date => total + (s.timesOn w date).length) total =
        total + (dates.flatMap (s.timesOn w)).length := by
    induction dates generalizing total with
    | nil => rfl
    | cons date dates ih => simp [ih, Nat.add_assoc]
  have years (total : Nat) (ys : List Int) :
      ys.foldl (fun total year => (s.daysIn w year).foldl
          (fun total date => total + (s.timesOn w date).length) total) total =
        total + (ys.flatMap fun year => (s.daysIn w year).flatMap (s.timesOn w)).length := by
    induction ys generalizing total with
    | nil => rfl
    | cons year ys ih =>
      rw [List.foldl_cons, ih, days, List.flatMap_cons, List.length_append, Nat.add_assoc]
  simpa [countOccurrences, occurrences] using years 0 w.years

end Timetable
