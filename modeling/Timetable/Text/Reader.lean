/-!
# Readers

A reader takes a part from the front of a text and gives what it means, or fails and takes
nothing. Readers follow one another in `do` blocks, and `p <|> q` tries `q` where `p` fails.

## Main definitions

- `Reader` — from a text to a value and the text after it
- `char`, `run`, `literal` — readers of single characters and fixed texts
- `many`, `separated` — one reader over and over
-/

namespace Timetable.Text

/-- Takes a part from the front of a text, or fails. -/
abbrev Reader (α : Type) := StateT (List Char) Option α

namespace Reader

variable {α β : Type}

/-- The next character, if it is of a class. -/
def char (p : Char → Bool) : Reader Char
  | c :: cs => if p c then some (c, cs) else none
  | [] => none

/-- All characters of a class in front of the text, possibly none. -/
def run (p : Char → Bool) : Reader (List Char) := fun cs =>
  some (cs.takeWhile p, cs.dropWhile p)

/-- All characters of a class in front of the text, at least one. -/
def run1 (p : Char → Bool) : Reader (List Char) := do
  let cs ← run p
  if cs.isEmpty then failure else pure cs

def literal (s : String) : Reader Unit := fun cs =>
  if s.toList.isPrefixOf cs then some ((), cs.drop s.length) else none

/-- What a reader gives over and over, at most `limit` times, until it fails. -/
def upTo (p : Reader α) : Nat → List Char → List α × List Char
  | 0, cs => ([], cs)
  | limit + 1, cs =>
    match p cs with
    | none => ([], cs)
    | some (a, rest) =>
      let later := upTo p limit rest
      (a :: later.1, later.2)

/-- What a reader gives over and over until it fails. A reader that takes something each
time cannot be repeated more often than there are characters. -/
def many (p : Reader α) : Reader (List α) := fun cs =>
  some (upTo p cs.length cs)

/-- What a reader gives one or more times, separated by what another one takes. -/
def separated1 (p : Reader α) (separator : Reader β) : Reader (List α) := do
  let first ← p
  let later ← many (do let _ ← separator; p)
  pure (first :: later)

/-- What a reader gives, possibly never, separated by what another one takes. -/
def separated (p : Reader α) (separator : Reader β) : Reader (List α) :=
  separated1 p separator <|> pure []

def whole? (p : Reader α) (text : List Char) : Option α :=
  match p text with
  | some (a, []) => some a
  | _ => none

end Reader

end Timetable.Text
