import Timetable.Config.Bounds
import Timetable.Crontab
import Timetable.Toml.Document
/-!
# Configurations

A configuration is a TOML document. Every part of it may be missing, and what it does not
know it ignores, except within a style, where it is an attribute.

## Main definitions

- `Config` — a window, a number of workers and styles
- `Config.parse`, `Config.load` — a configuration from a text or a file
- `Config.crontab` — an empty crontab set up as configured
-/

namespace Timetable

structure Config where
  window : Option Bounds
  threads : Nat
  styles : StyleTable

namespace Config

def default : Config :=
  ⟨none, 1, .builtin⟩

def threads? : Option Toml.Value → Option Nat
  | none => some 1
  | some (.integer n) => if 0 ≤ n then some n.toNat else none
  | some _ => none

def window? : Option Toml.Value → Option (Option Bounds)
  | none => some none
  | some value => (Bounds.ofToml? value).map some

/-- The styles. Of an array only the first three items count. -/
def styles? : Option Toml.Value → Option StyleTable
  | none => some .builtin
  | some (.array items) => StyleTable.ofJson? (.arr (Toml.Value.itemsToJson (items.take 3)))
  | some value => StyleTable.ofJson? value.toJson

def ofToml? (document : Toml.Value) : Option Config := do
  let window ← window? (document.get? "window")
  let threads ← threads? (document.get? "threads")
  let styles ← styles? (document.get? "styles")
  some ⟨window, threads, styles⟩

/-- The configuration in a text. What is wrong with a text that is none is for the reader of TOML
to explain. -/
def parse (text : String) (explain : String → String := fun _ => "") : Except Error Config :=
  match (Toml.document? text).bind ofToml? with
  | some config => .ok config
  | none => .error (@Error.invalidConfig (explain text))

def load (path : String) (content : Except FileFailure String)
    (explain : String → String := fun _ => "") : Except Error Config :=
  match content with
  | .ok text => parse text explain
  | .error failure => .error (.unreadable path failure)

/-- The empty crontab for a window, with the configured styles and workers. -/
def crontab (config : Config) (w : Window) : Crontab :=
  (Crontab.empty w config.styles).withThreads config.threads

end Config

end Timetable
