/-!
# Blanks and words

The characters that separate the words of a text are those with the Unicode property
`White_Space`. A word is a maximal run of other characters.

## Main definitions

- `isBlank` — the separating characters
- `trimStart`, `trim` — a text without the blanks in front of it, or at both ends
- `words` — all words of a text
- `takeWords` — its first words, and the text that follows them
-/

namespace Timetable.Text

/-- The characters with the property `White_Space`. -/
def isBlank (c : Char) : Bool :=
  let n := c.toNat
  (0x09 ≤ n && n ≤ 0x0D) || n == 0x20 || n == 0x85 || n == 0xA0 || n == 0x1680 ||
    (0x2000 ≤ n && n ≤ 0x200A) || n == 0x2028 || n == 0x2029 || n == 0x202F ||
    n == 0x205F || n == 0x3000

def trimStart (cs : List Char) : List Char :=
  cs.dropWhile isBlank

def trimEnd (cs : List Char) : List Char :=
  (trimStart cs.reverse).reverse

def trim (cs : List Char) : List Char :=
  trimEnd (trimStart cs)

def words (cs : List Char) : List (List Char) :=
  (cs.splitOnP isBlank).filter (!·.isEmpty)

/-- The first `n` words of a text, fewer if it has fewer, and the text that follows the
last of them. -/
def takeWords : Nat → List Char → List (List Char) × List Char
  | 0, cs => ([], cs)
  | n + 1, cs =>
    match trimStart cs with
    | [] => ([], [])
    | text@(_ :: _) =>
      let later := takeWords n (text.dropWhile (!isBlank ·))
      (text.takeWhile (!isBlank ·) :: later.1, later.2)

end Timetable.Text
