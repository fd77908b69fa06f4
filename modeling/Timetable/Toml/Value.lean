import Timetable.Attributes
import Timetable.Toml.Datetime
/-!
# TOML values

## Main definitions

- `Toml.Value` — the values of a configuration
- `Toml.Value.get?` — a part of a table
- `Toml.Value.toJson` — a value as JSON
-/

namespace Timetable.Toml

/-- A TOML value. Integers lie between -2⁶³ and 2⁶³ - 1, and the keys of a table differ. -/
inductive Value where
  | string (value : String)
  | integer (value : Int)
  | float (value : Binary64)
  /-- An infinity, or no number at all. -/
  | nonFinite
  | boolean (value : Bool)
  | datetime (value : Datetime)
  | array (items : List Value)
  | table (entries : List (String × Value))
  deriving Inhabited

namespace Value

def get? (key : String) : Value → Option Value
  | table entries => entries.lookup key
  | _ => none

/-- The member of an object that stands for a date or a time. -/
def datetimeKey : String := "$__toml_private_datetime"

mutual

/-- The value as JSON. A float that JSON cannot express is null, and a date or a time is an
object with its text. -/
def toJson : Value → Json
  | string value => .str value
  | integer value => .int value
  | float value => .float value
  | nonFinite => .null
  | boolean value => .bool value
  | datetime value => .obj [(datetimeKey, .str (String.ofList value.text))]
  | array items => .arr (itemsToJson items)
  | table entries => .obj (Attributes.ofList (entriesToJson entries)).entries

def itemsToJson : List Value → List Json
  | [] => []
  | item :: items => item.toJson :: itemsToJson items

def entriesToJson : List (String × Value) → List (String × Json)
  | [] => []
  | (key, value) :: entries => (key, value.toJson) :: entriesToJson entries

end

end Value

end Timetable.Toml
