import Timetable.Decimal.Binary64
/-!
# JSON values

Numbers are integers or binary64 numbers, and the two are kept apart: `1` and `1.0` are
different values. The members of an object keep their order.
-/

namespace Timetable

inductive Json where
  | null
  | bool (value : Bool)
  | int (value : Int)
  | float (value : Binary64)
  | str (value : String)
  | arr (items : List Json)
  | obj (members : List (String × Json))
  deriving Inhabited

end Timetable
