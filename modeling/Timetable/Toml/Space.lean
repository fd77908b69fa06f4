import Timetable.Text.Reader
/-!
# Space in TOML

Blanks are spaces and tabs. A comment runs from `#` to the end of its line, and a line ends
with a line feed, before which a carriage return may stand.
-/

namespace Timetable.Toml

open Text Text.Reader

/-- Characters beyond ASCII, which all texts and comments may hold. -/
def isNonAscii (c : Char) : Bool :=
  0x80 ≤ c.toNat

/-- The characters of comments: all but control characters, of which the tab is allowed. -/
def isPlain (c : Char) : Bool :=
  c = '\t' || (0x20 ≤ c.toNat && c.toNat ≤ 0x7E) || isNonAscii c

def isSpace (c : Char) : Bool :=
  c = ' ' || c = '\t'

def space : Reader Unit := do
  let _ ← run isSpace

def newline : Reader Unit :=
  literal "\n" <|> literal "\r\n"

def comment : Reader Unit := do
  literal "#"
  let _ ← run isPlain

/-- Blanks, line ends and whole lines of comment, possibly none. -/
def spaceOverLines : Reader Unit := do
  space
  let _ ← many (do
    let _ ← optional comment
    newline
    space)

end Timetable.Toml
