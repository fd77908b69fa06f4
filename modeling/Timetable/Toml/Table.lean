import Timetable.Toml.Value
/-!
# Tables under construction

A document names a table in many places: in headers, in the headers of its parts and in
dotted keys. Each table remembers how it came about, since that decides which of these may
still add to it. Where a path leads to a list of tables it goes on in the last one.

## Main definitions

- `Toml.Origin`, `Toml.Node` — tables with their origins
- `Toml.alter` — changes the table at the end of a path
- `Toml.assign`, `Toml.openTable`, `Toml.openItem` — what key–value lines and headers do
- `Toml.Node.toValue` — the finished value
-/

namespace Timetable.Toml

/-- How a table came about. -/
inductive Origin where
  /-- By its own header, or as a whole document or inline table. -/
  | explicit
  /-- By the header of one of its parts. -/
  | implied
  /-- By a dotted key. -/
  | dotted
  deriving DecidableEq, Repr

/-- A value, a table or a list of tables that have headers of their own. -/
inductive Node where
  | value (value : Value)
  | table (origin : Origin) (entries : List (String × Node))
  | tables (items : List (List (String × Node)))
  deriving Inhabited

abbrev Entries := List (String × Node)

def Entries.replace (entries : Entries) (key : String) (node : Node) : Entries :=
  entries.map fun entry => if entry.1 = key then (key, node) else entry

/-- Changes the table at the end of a path, making the tables on the way that are missing.
The path is that of a header, or the front of a dotted key. No path leads through a value,
and no dotted key through a table that is explicit. -/
def alter (isDotted : Bool) (change : Origin → Entries → Option Entries) :
    List String → Origin → Entries → Option Entries
  | [], origin, entries => change origin entries
  | key :: path, _, entries =>
    match entries.lookup key with
    | none =>
      let origin := if isDotted then .dotted else .implied
      (alter isDotted change path origin []).map fun part =>
        entries ++ [(key, .table origin part)]
    | some (.table origin part) =>
      if isDotted ∧ origin = .explicit then none
      else
        (alter isDotted change path origin part).map fun part =>
          entries.replace key (.table origin part)
    | some (.tables items) => do
      let part ← alter isDotted change path .explicit (← items.getLast?)
      some (entries.replace key (.tables (items.dropLast ++ [part])))
    | some (.value _) => none

/-- Sets a new key, below the tables that the front of its dotted key names. Only a table
that dotted keys have made can be the last of these. -/
def assignIn (front : List String) (key : String) (value : Value) (entries : Entries) :
    Option Entries :=
  alter true
    (fun origin entries =>
      if (front ≠ [] ∧ origin ≠ .dotted) ∨ (entries.lookup key).isSome then none
      else some (entries ++ [(key, .value value)]))
    front .explicit entries

/-- Sets a key in the table of a header. -/
def assign (header front : List String) (key : String) (value : Value) (root : Entries) :
    Option Entries :=
  alter false (fun _ => assignIn front key value) header .explicit root

/-- Makes the table of a header explicit. It must be new, or have been implied only. -/
def openTable (parent : List String) (key : String) (root : Entries) : Option Entries :=
  alter false
    (fun _ entries =>
      match entries.lookup key with
      | none => some (entries ++ [(key, .table .explicit [])])
      | some (.table .implied part) => some (entries.replace key (.table .explicit part))
      | some _ => none)
    parent .explicit root

/-- Adds a table to a list of tables, which may be new. -/
def openItem (parent : List String) (key : String) (root : Entries) : Option Entries :=
  alter false
    (fun _ entries =>
      match entries.lookup key with
      | none => some (entries ++ [(key, .tables [[]])])
      | some (.tables items) => some (entries.replace key (.tables (items ++ [[]])))
      | some _ => none)
    parent .explicit root

mutual

/-- The value that a node has become. -/
def Node.toValue : Node → Value
  | .value v => v
  | .table _ entries => .table (entriesToValues entries)
  | .tables items => .array (itemsToValues items)

def entriesToValues : List (String × Node) → List (String × Value)
  | [] => []
  | (key, node) :: entries => (key, node.toValue) :: entriesToValues entries

def itemsToValues : List (List (String × Node)) → List Value
  | [] => []
  | entries :: items => .table (entriesToValues entries) :: itemsToValues items

end

/-- The table made of keys with their values, as an inline table holds them. -/
def tableOf? (pairs : List ((List String × String) × Value)) : Option Value :=
  (pairs.foldlM (fun entries pair => assignIn pair.1.1 pair.1.2 pair.2 entries) []).map
    fun entries => .table (entriesToValues entries)

end Timetable.Toml
