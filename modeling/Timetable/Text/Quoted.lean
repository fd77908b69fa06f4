import Timetable.Text.Unseen
/-!
# Quoted texts

Messages show a piece of input between double quotes, so that its ends and its unseen
characters can be read off.

## Main definitions

- `quotedChar` — how one character is shown
- `quoted` — a text between double quotes
-/

namespace Timetable.Text

/-- One character inside quotes: a quote or a backslash follows a backslash, the characters
with a letter of their own are `\t`, `\r`, `\n` and `\0`, and any other unseen character
is given by its number in hexadecimal. -/
def quotedChar (c : Char) : List Char :=
  if c = '"' then ['\\', '"']
  else if c = '\\' then ['\\', '\\']
  else if c = '\t' then ['\\', 't']
  else if c = '\r' then ['\\', 'r']
  else if c = '\n' then ['\\', 'n']
  else if c.toNat = 0 then ['\\', '0']
  else if isUnseen c then ['\\', 'u', '\x7b'] ++ Nat.toDigits 16 c.toNat ++ ['\x7d']
  else [c]

def quoted (s : String) : String :=
  String.ofList ('"' :: s.toList.flatMap quotedChar ++ ['"'])

end Timetable.Text
