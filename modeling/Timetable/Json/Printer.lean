import Timetable.Decimal.Shortest
import Timetable.Json
import Timetable.Text.Numeral
/-!
# Printing JSON

A value is printed without any space, or over several lines with an indentation of two
spaces for each level. An empty array or object stays on its line.

## Main definitions

- `Json.escapeChar`, `Json.writeQuoted` — texts between quotes
- `Json.floatText` — a binary64 number in decimal
- `Json.compact`, `Json.pretty` — the two layouts
-/

namespace Timetable.Json

/-- A character of a text: the quote, the backslash and the control characters are escaped,
those without a short escape by their number. -/
def escapeChar (c : Char) : String :=
  if c = '"' then "\\\""
  else if c = '\\' then "\\\\"
  else if c = '\n' then "\\n"
  else if c = '\r' then "\\r"
  else if c = '\t' then "\\t"
  else if c.toNat = 8 then "\\b"
  else if c.toNat = 12 then "\\f"
  else if c.toNat < 32 then
    "\\u00" ++ String.ofList [Nat.digitChar (c.toNat / 16), Nat.digitChar (c.toNat % 16)]
  else String.singleton c

/-- Writes a text between quotes after what is written already. -/
def writeQuoted (written text : String) : String :=
  text.toList.foldl (fun written c => written ++ escapeChar c) (written ++ "\"") ++ "\""

/-- A decimal with a point: all its digits are written out if its first one lies from the
fifth place after the point to the sixteenth before it, and a power of ten follows
otherwise. -/
def decimalText (digits : List Char) (power : Int) : List Char :=
  let lead := power + digits.length - 1
  if -5 ≤ lead ∧ lead ≤ 15 then
    if 0 ≤ power then digits ++ List.replicate power.toNat '0' ++ ['.', '0']
    else if 0 ≤ lead then
      digits.take (lead + 1).toNat ++ '.' :: digits.drop (lead + 1).toNat
    else '0' :: '.' :: List.replicate (-lead - 1).toNat '0' ++ digits
  else
    digits.take 1 ++ (if digits.length = 1 then [] else '.' :: digits.drop 1) ++
      'e' :: (if lead < 0 then '-' else '+') :: Text.digits lead.natAbs

def floatText (x : Binary64) : List Char :=
  (if x.negative then ['-'] else []) ++
    if x.significand = 0 then ['0', '.', '0']
    else decimalText (Text.digits x.shortest.1) x.shortest.2

/-- Writes a value that is neither an array nor an object; of those two, the empty one. -/
def writeScalar (written : String) : Json → String
  | null => written ++ "null"
  | bool value => written ++ (if value then "true" else "false")
  | int value => written ++ toString value
  | float value => written ++ String.ofList (floatText value)
  | str value => writeQuoted written value
  | arr _ => written ++ "[]"
  | obj _ => written ++ "\x7b\x7d"

mutual

/-- Writes a value without spaces after what is written already. -/
def write : Json → String → String
  | arr (item :: items), written => writeItems items (item.write (written ++ "["))
  | obj ((key, value) :: members), written =>
    writeMembers members (value.write (writeQuoted (written ++ "\x7b") key ++ ":"))
  | value, written => writeScalar written value

def writeItems : List Json → String → String
  | [], written => written ++ "]"
  | item :: items, written => writeItems items (item.write (written ++ ","))

def writeMembers : List (String × Json) → String → String
  | [], written => written ++ "\x7d"
  | (key, value) :: members, written =>
    writeMembers members (value.write (writeQuoted (written ++ ",") key ++ ":"))

end

def compact (value : Json) : String :=
  value.write ""

def newLine (level : Nat) : String :=
  "\n" ++ String.ofList (List.replicate (2 * level) ' ')

mutual

/-- Writes a value over several lines, its brackets indented by `level`. -/
def writeIndented : Json → Nat → String → String
  | arr (item :: items), level, written =>
    writeIndentedItems items level
      (item.writeIndented (level + 1) (written ++ "[" ++ newLine (level + 1)))
  | obj ((key, value) :: members), level, written =>
    writeIndentedMembers members level
      (value.writeIndented (level + 1)
        (writeQuoted (written ++ "\x7b" ++ newLine (level + 1)) key ++ ": "))
  | value, _, written => writeScalar written value

def writeIndentedItems : List Json → Nat → String → String
  | [], level, written => written ++ newLine level ++ "]"
  | item :: items, level, written =>
    writeIndentedItems items level
      (item.writeIndented (level + 1) (written ++ "," ++ newLine (level + 1)))

def writeIndentedMembers : List (String × Json) → Nat → String → String
  | [], level, written => written ++ newLine level ++ "\x7d"
  | (key, value) :: members, level, written =>
    writeIndentedMembers members level
      (value.writeIndented (level + 1)
        (writeQuoted (written ++ "," ++ newLine (level + 1)) key ++ ": "))

end

def pretty (value : Json) : String :=
  value.writeIndented 0 ""

end Timetable.Json
