import Timetable.Toml.NumberLiteral
import Timetable.Toml.StringLiteral
import Timetable.Toml.Table
/-!
# Expressions of TOML

A document is a sequence of lines, each of which sets a key, opens a table or says nothing.
A value in brackets may go on over several lines.

## Main definitions

- `Toml.Key`, `Toml.key` — dotted keys
- `Toml.value` — a value
- `Toml.Expression`, `Toml.expression` — the lines that say something
- `Toml.expressions` — all of these in a document
-/

namespace Timetable.Toml

open Text Text.Reader

def maxNesting : Nat := 79

def maxKeyParts : Nat := 79

/-- A dotted key: all parts but the last, and the last one. -/
abbrev Key := List String × String

/-- The characters of keys without quotes. -/
def isBareKey (c : Char) : Bool :=
  c.isAlphanum || c = '_' || c = '-'

/-- A part of a key, with the blanks around it. -/
def keyPart : Reader String := do
  space
  let part ← lineString <|> String.ofList <$> run1 isBareKey
  space
  pure part

def key : Reader Key := do
  let parts ← separated1 keyPart (literal ".")
  match parts.getLast? with
  | some last => if parts.length ≤ maxKeyParts then pure (parts.dropLast, last) else failure
  | none => failure

def scalar : Reader Value :=
  Value.string <$> stringLiteral <|>
  (literal "true" *> pure (.boolean true)) <|>
  (literal "false" *> pure (.boolean false)) <|>
  Value.datetime <$> datetime <|>
  float <|>
  Value.integer <$> integer

def pair (value : Reader Value) : Reader (Key × Value) := do
  let key ← key
  literal "="
  space
  let value ← value
  space
  pure (key, value)

/-- An array, in which a comma may follow the last item. -/
def array (value : Reader Value) : Reader Value := do
  literal "["
  let items ← separated (do spaceOverLines; let item ← value; spaceOverLines; pure item)
    (literal ",")
  if items ≠ [] then
    let _ ← optional (literal ",")
  spaceOverLines
  literal "]"
  pure (.array items)

/-- An inline table, which is on one line but for its values. -/
def inlineTable (value : Reader Value) : Reader Value := do
  literal "\x7b"
  let pairs ← separated (pair value) (literal ",")
  space
  literal "\x7d"
  match tableOf? pairs with
  | some table => pure table
  | none => failure

/-- A value in which at most `nesting` brackets are open at once. -/
def nestedValue : Nat → Reader Value
  | 0 => scalar
  | nesting + 1 =>
    scalar <|> array (nestedValue nesting) <|> inlineTable (nestedValue nesting)

def value : Reader Value :=
  nestedValue maxNesting

inductive Expression where
  | assign (key : Key) (value : Value)
  | table (key : Key)
  | item (key : Key)

/-- An expression, without the end of its line. -/
def expression : Reader Expression :=
  (do
    literal "[["
    let key ← key
    literal "]]"
    pure (.item key)) <|>
  (do
    literal "["
    let key ← key
    literal "]"
    pure (.table key)) <|>
  (fun pair => .assign pair.1 pair.2) <$> pair value

/-- A line without its end. -/
def line : Reader (Option Expression) := do
  space
  let e ← optional expression
  space
  let _ ← optional comment
  pure e

/-- The expressions of a document, which may begin with a byte order mark. -/
def expressions : Reader (List Expression) := do
  let _ ← optional (literal "\ufeff")
  let lines ← separated1 line newline
  pure (lines.filterMap id)

end Timetable.Toml
