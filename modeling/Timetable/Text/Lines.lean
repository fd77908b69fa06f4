/-!
# Lines

A line ends at a line feed, and a carriage return directly before the line feed belongs to
the line's end. Text after the last line feed is a line too, unless it is empty.
-/

namespace Timetable.Text

/-- The lines of a text, without their ends. -/
def lines : List Char → List (List Char)
  | [] => []
  | '\n' :: cs => [] :: lines cs
  | '\r' :: '\n' :: cs => [] :: lines cs
  | c :: cs =>
    match lines cs with
    | [] => [[c]]
    | line :: later => (c :: line) :: later

end Timetable.Text
