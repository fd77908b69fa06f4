import Timetable.Toml.Value
import Timetable.Window
/-!
# Bounds of a window

A window may be given by the command line, by a configuration, or by neither, and each of
its two bounds is settled for itself.

## Main definitions

- `Bounds` — the two bounds as a configuration has them
- `resolveWindow` — the window of a run
-/

namespace Timetable

/-- Two timestamps that have not been read yet. -/
structure Bounds where
  earliest : String
  latest : String
  deriving DecidableEq, Repr

/-- The bounds in a table with a member for each, or the first two items of an array. -/
def Bounds.ofToml? : Toml.Value → Option Bounds
  | .table entries =>
    match entries.lookup "earliest", entries.lookup "latest" with
    | some (.string earliest), some (.string latest) => some ⟨earliest, latest⟩
    | _, _ => none
  | .array (.string earliest :: .string latest :: _) => some ⟨earliest, latest⟩
  | _ => none

def Bounds.window (b : Bounds) : Except Error Window :=
  Window.parse b.earliest b.latest

/-- The moment that a timestamp names, or another one where there is no timestamp. -/
def momentOr (fallback : Moment) : Option String → Except Error Moment
  | some value => Window.parseTimestamp value
  | none => .ok fallback

/-- The window of a run. For each bound the flag counts before the configuration, and the
configuration before the whole of today. A timestamp that does not count is not read. -/
def resolveWindow (earliest latest : Option String) (configured : Option Bounds)
    (today : Date) : Except Error Window := do
  let first ← momentOr (.firstOf today) (earliest <|> configured.map Bounds.earliest)
  let last ← momentOr (.lastOf today) (latest <|> configured.map Bounds.latest)
  Window.new first last

end Timetable
