import Timetable.Text.Numeral
import Timetable.Toml.Space
/-!
# Strings in TOML

A string stands between double quotes, in which a backslash escapes, or between single
quotes, in which it does not. Between three quotes of a kind it may have several lines, and
then it may hold one or two quotes of that kind in a row, even directly before its end.

## Main definitions

- `Toml.lineString` — a string on one line, as keys may be written
- `Toml.stringLiteral` — a string of any kind
-/

namespace Timetable.Toml

open Text Text.Reader

/-- The characters that stand for themselves between double quotes. -/
def isBasic (c : Char) : Bool :=
  isPlain c && c ≠ '"' && c ≠ '\\'

/-- The characters that stand for themselves between single quotes. -/
def isVerbatim (c : Char) : Bool :=
  isPlain c && c ≠ '\''

def numberedChar (width : Nat) : Reader Char := fun cs =>
  match basedNumeral? 16 (cs.take width) with
  | some n =>
    if (cs.take width).length = width ∧ n.isValidChar then
      some (Char.ofNat n, cs.drop width)
    else none
  | none => none

def escape : Reader Char := do
  literal "\\"
  match ← char fun _ => true with
  | 'b' => pure '\x08'
  | 'f' => pure '\x0c'
  | 'n' => pure '\n'
  | 'r' => pure '\r'
  | 't' => pure '\t'
  | '"' => pure '"'
  | '\\' => pure '\\'
  | 'u' => numberedChar 4
  | 'U' => numberedChar 8
  | _ => failure

/-- A string between double quotes, on one line. -/
def basicString : Reader (List Char) := do
  literal "\""
  let parts ← many (run1 isBasic <|> (fun c => [c]) <$> escape)
  literal "\""
  pure parts.flatten

/-- A string between single quotes, on one line. -/
def verbatimString : Reader (List Char) := do
  literal "'"
  let cs ← run isVerbatim
  literal "'"
  pure cs

def lineString : Reader String :=
  String.ofList <$> (basicString <|> verbatimString)

/-- One or two quotes that a longer row of quotes does not continue. -/
def innerQuotes (quote : Char) : Reader (List Char) := do
  let quotes ← run1 (· = quote)
  if quotes.length ≤ 2 then pure quotes else failure

/-- Three quotes, and up to two before them that belong to the string. -/
def lastQuotes (quote : Char) : Reader (List Char) := fun cs =>
  let count := min (cs.takeWhile (· = quote)).length 5
  if 3 ≤ count then some (List.replicate (count - 3) quote, cs.drop count) else none

/-- A line end within a string, which is a line feed whatever it was. -/
def innerNewline : Reader (List Char) := do
  newline
  pure ['\n']

/-- A backslash at the end of a line, with all blanks and line ends up to the next
character. It stands for nothing. -/
def joinedLines : Reader (List Char) := do
  literal "\\"
  space
  newline
  let _ ← many (newline <|> do let _ ← run1 isSpace)
  pure []

/-- A string between three quotes of a kind, made of `parts`. A line end directly after the
first quotes does not count. -/
def longString (quote : Char) (parts : Reader (List Char)) : Reader (List Char) := do
  literal (String.ofList [quote, quote, quote])
  let _ ← optional newline
  let body ← many (parts <|> innerNewline <|> innerQuotes quote)
  let last ← lastQuotes quote
  pure (body.flatten ++ last)

def stringLiteral : Reader String := fun cs =>
  if ['"', '"', '"'].isPrefixOf cs then
    (String.ofList <$>
      longString '"' (run1 isBasic <|> joinedLines <|> (fun c => [c]) <$> escape)) cs
  else if ['\'', '\'', '\''].isPrefixOf cs then
    (String.ofList <$> longString '\'' (run1 isVerbatim)) cs
  else lineString cs

end Timetable.Toml
