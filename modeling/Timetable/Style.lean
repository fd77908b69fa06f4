import Timetable.Attributes
import Timetable.Cadence
/-!
# Styles

A style holds the attributes that events carry for the display, and a prefix for the titles
of events that stand for a whole cadence. Every event has the default style; an event for a
cadence has that cadence's style over it.

## Main definitions

- `Style`, `StyleTable` — the styles of a timeline
- `StyleTable.builtin` — the styles in use where none are given
- `Style.ofJson?`, `StyleTable.ofJson?` — styles read from JSON
- `Style.toJson`, `StyleTable.toJson` — styles written as JSON
-/

namespace Timetable

/-- Attributes for the display, and a title prefix. -/
structure Style where
  titlePrefix : String
  attributes : Attributes

structure StyleTable where
  default : Style
  everyMinute : Style
  everyFiveMinutes : Style

namespace Style

/-- The member of a style that is its title prefix; all other members are attributes. -/
def titlePrefixKey : String := "title_prefix"

/-- The style in an object. Without a title prefix it has the empty one. -/
def ofJson? : Json → Option Style
  | .obj members =>
    let all := Attributes.ofList members
    let attributes := all.erase titlePrefixKey
    match all.get? titlePrefixKey with
    | none => some ⟨"", attributes⟩
    | some (.str titlePrefix) => some ⟨titlePrefix, attributes⟩
    | some _ => none
  | _ => none

/-- The style as an object, without the title prefix if that is empty. -/
def toJson (s : Style) : Json :=
  .obj ((if s.titlePrefix = "" then [] else [(titlePrefixKey, .str s.titlePrefix)]) ++
    s.attributes.entries)

end Style

namespace StyleTable

/-- The styles in use where none are given. -/
def builtin : StyleTable where
  default := ⟨"", .ofList [("color", .str "#7FFFD4"), ("textColor", .str "#000000"),
    ("classname", .str "default"), ("durationEvent", .bool false)]⟩
  everyMinute :=
    ⟨"Every minute: ", .ofList [("color", .str "#f00"), ("durationEvent", .bool true)]⟩
  everyFiveMinutes :=
    ⟨"Every five minutes: ", .ofList [("color", .str "#fa0"), ("durationEvent", .bool true)]⟩

/-- The style that a cadence has of its own. -/
def ofCadence (t : StyleTable) : Cadence → Option Style
  | .individual => none
  | .everyMinute => some t.everyMinute
  | .everyFiveMinutes => some t.everyFiveMinutes

/-- A style given as a value, or the built-in one if there is no value. -/
def styleOr (builtin : Style) : Option Json → Option Style
  | none => some builtin
  | some value => Style.ofJson? value

/-- The table of three styles, each given or built-in. -/
def ofParts? (default everyMinute everyFiveMinutes : Option Json) : Option StyleTable := do
  let default ← styleOr builtin.default default
  let everyMinute ← styleOr builtin.everyMinute everyMinute
  let everyFiveMinutes ← styleOr builtin.everyFiveMinutes everyFiveMinutes
  some ⟨default, everyMinute, everyFiveMinutes⟩

/-- The table in an object with a member for each style, or in an array of the styles in
order. Styles that are missing are the built-in ones, and other members do not count. -/
def ofJson? : Json → Option StyleTable
  | .obj members =>
    let all := Attributes.ofList members
    ofParts? (all.get? "default") (all.get? "every_minute") (all.get? "every_five_minutes")
  | .arr items => if items.length ≤ 3 then ofParts? items[0]? items[1]? items[2]? else none
  | _ => none

def toJson (t : StyleTable) : Json :=
  .obj [("default", t.default.toJson), ("every_minute", t.everyMinute.toJson),
    ("every_five_minutes", t.everyFiveMinutes.toJson)]

end StyleTable

end Timetable
