import Timetable.Calendar.Date
import Timetable.Error
/-!
# Hosts

A run asks a host for the date, for its input and for files, and has it write a file. Hosts
that keep their files in memory serve to say what a run does. They have directories and regular
files only, no links.

Writing a file is not one step: the file is created, or an old one emptied, and then the text goes
into it byte by byte, so that storage which fails on the way leaves the beginning of the text.

## Main definitions

- `Host` — what a run asks for
- `FileTree` — directories and files
- `FileTree.readText` — what a path leads to
- `FileTree.target`, `FileTree.writeText` — where a path lets a text be written, and writing it
- `Storage` — where texts cannot be written to their end
- `Host.inMemory` — the host over a file tree
-/

namespace Timetable

/-- What a run asks of the system around it. -/
structure Host (m : Type → Type) where
  today : m Date
  isThere : String → m Bool
  readText : String → m (Except FileFailure String)
  readInput : m (Except FileFailure String)
  writeText : String → String → m (Except FileFailure Unit)
  /-- What the reader of TOML says about a text that is no configuration. -/
  explain : String → String

/-- What may be at a place. A file whose bytes are not UTF-8 has no text. -/
inductive FileNode where
  | file (text : Option String)
  | directory
  deriving DecidableEq, Repr

/-- Nodes by their places, which are the names on the way from the root. The working
directory, the directories above it and the root are always there and need not be listed. -/
structure FileTree where
  workingDirectory : List String
  nodes : List (List String × FileNode)
  deriving DecidableEq, Repr

namespace FileTree

def maxNameSize : Nat := 255

def maxPathSize : Nat := 4095

variable (tree : FileTree)

def node? (place : List String) : Option FileNode :=
  if place.isPrefixOf tree.workingDirectory then some .directory else tree.nodes.lookup place

/-- Follows the names of a path from a place. Each name must start from a directory, and the
root lies above itself. -/
def walk : List String → List String → Except FileFailure (List String)
  | place, [] => .ok place
  | place, name :: names =>
    match tree.node? place with
    | none => .error .notFound
    | some (.file _) => .error .notDirectory
    | some .directory =>
      if name = "" ∨ name = "." then walk place names
      else if name = ".." then walk place.dropLast names
      else if maxNameSize < name.utf8ByteSize then .error .nameTooLong
      else walk (place ++ [name]) names

/-- The place that a path leads to: from the root if it begins with a slash, and from the
working directory otherwise. -/
def find (path : String) : Except FileFailure (List String) :=
  if path = "" then .error .notFound
  else if maxPathSize < path.utf8ByteSize then .error .nameTooLong
  else
    match (path.toList.splitOn '/').map String.ofList with
    | "" :: names => tree.walk [] names
    | names => tree.walk tree.workingDirectory names

def isThere (path : String) : Bool :=
  match tree.find path with
  | .ok place => (tree.node? place).isSome
  | .error _ => false

def readText (path : String) : Except FileFailure String := do
  match tree.node? (← tree.find path) with
  | none => .error .notFound
  | some .directory => .error .isDirectory
  | some (.file none) => .error .notUtf8
  | some (.file (some text)) => .ok text

def put (place : List String) (node : FileNode) : FileTree :=
  { tree with nodes := (place, node) :: tree.nodes.filter (·.1 ≠ place) }

/-- The path of the directory that holds what a path leads to. -/
def directoryOf (path : String) : String :=
  String.ofList (((path.toList.reverse.dropWhile (· = '/')).dropWhile (· ≠ '/')).reverse ++ ['.'])

/-- The place at the end of a path where a file is or can be created. A path that ends with a slash
asks for a directory, if there is one or not. -/
def target (path : String) : Except FileFailure (List String) :=
  if path.toList.getLast? = some '/' then
    if maxPathSize < path.utf8ByteSize then .error .nameTooLong
    else (tree.find (directoryOf path)).bind fun _ => .error .isDirectory
  else
    (tree.find path).bind fun place =>
      if tree.node? place = some .directory then .error .isDirectory else .ok place

end FileTree

/-- Why a text is not written to its end, and after how many bytes. -/
structure WriteFault where
  bytes : Nat
  failure : FileFailure
  deriving DecidableEq, Repr

/-- What keeps a text from being written to its end at a place, if anything does. -/
abbrev Storage := List String → String → Option WriteFault

/-- Storage that takes every text. -/
def Storage.sound : Storage := fun _ _ => none

/-- A file that holds the first bytes of a text. -/
def FileNode.beginning (text : String) (bytes : Nat) : FileNode :=
  .file (String.fromUTF8? (text.toUTF8.extract 0 bytes))

/-- Writes a text to the end of a path. There is an empty file before the first byte is written, be
it a new one or an old one that has lost its text. -/
def FileTree.writeText (tree : FileTree) (storage : Storage) (path text : String) :
    Except FileFailure Unit × FileTree :=
  match tree.target path with
  | .error failure => (.error failure, tree)
  | .ok place =>
    let opened := tree.put place (.file (some ""))
    match storage place text with
    | none => (.ok (), opened.put place (.file (some text)))
    | some fault => (.error fault.failure, opened.put place (.beginning text fault.bytes))

/-- The host over a file tree, on some day and with some input. -/
def Host.inMemory (today : Date) (input : Except FileFailure String)
    (explain : String → String := fun _ => "") (storage : Storage := .sound) :
    Host (StateM FileTree) where
  today := pure today
  isThere path := return (← get).isThere path
  readText path := return (← get).readText path
  readInput := pure input
  writeText path text := do
    let (result, tree) := (← get).writeText storage path text
    set tree
    return result
  explain := explain

end Timetable
