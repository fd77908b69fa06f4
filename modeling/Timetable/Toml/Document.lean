import Timetable.Toml.Expression
/-!
# TOML documents

A document is a table. Its expressions take effect in order: a header is in force up to the
next one.
-/

namespace Timetable.Toml

open Text

/-- A document up to some line: the header in force and the entries so far. -/
structure Progress where
  header : List String
  root : Entries

/-- The effect of an expression, unless what is there already forbids it. -/
def Progress.step (p : Progress) : Expression → Option Progress
  | .assign (front, key) value =>
    (assign p.header front key value p.root).map fun root => ⟨p.header, root⟩
  | .table (parent, key) =>
    (openTable parent key p.root).map fun root => ⟨parent ++ [key], root⟩
  | .item (parent, key) =>
    (openItem parent key p.root).map fun root => ⟨parent ++ [key], root⟩

/-- The table in a document, unless the text is no TOML. -/
def document? (text : String) : Option Value := do
  let expressions ← Reader.whole? expressions text.toList
  let last ← expressions.foldlM Progress.step ⟨[], []⟩
  some (.table (entriesToValues last.root))

end Timetable.Toml
