import Timetable.Text.Numeral
/-!
# Arguments

The arguments of a run are options and at most one path, in any order. An option that takes
a value has it after an equals sign or as the next argument, and no option is given twice.
After `--` there are only paths. The first argument that cannot be accepted decides, unless
the help or the version is asked for before it.

## Main definitions

- `Options` — what the arguments of a run set
- `Request` — what the arguments ask for
- `UsageError` — why arguments are not accepted
- `Request.ofArguments` — what a list of arguments asks for
-/

namespace Timetable

structure Options where
  crontab : Option String
  config : Option String
  earliest : Option String
  latest : Option String
  threads : Option Nat
  output : Option String
  pretty : Bool
  deriving DecidableEq, Repr

inductive Setting where
  | config
  | earliest
  | latest
  | threads
  | output
  deriving DecidableEq, Repr

inductive UsageError where
  | unknownOption (argument : String)
  | missingValue (setting : Setting)
  | invalidValue (setting : Setting) (value : String)
  | repeatedOption (name : String)
  | needlessValue (name : String)
  | unexpectedPath (path : String)
  deriving DecidableEq, Repr

inductive Request where
  | timeline (options : Options)
  | help
  | version
  deriving DecidableEq, Repr

namespace Setting

def name : Setting → String
  | config => "config"
  | earliest => "earliest"
  | latest => "latest"
  | threads => "threads"
  | output => "output"

def ofName? (name : String) : Option Setting :=
  [config, earliest, latest, threads, output].find? (·.name = name)

end Setting

def UsageError.message : UsageError → String
  | unknownOption argument => "unexpected argument '" ++ argument ++ "'"
  | missingValue setting => "option '--" ++ setting.name ++ "' needs a value"
  | invalidValue setting value =>
    "invalid value '" ++ value ++ "' for option '--" ++ setting.name ++ "'"
  | repeatedOption name => "option '--" ++ name ++ "' is given more than once"
  | needlessValue name => "option '--" ++ name ++ "' takes no value"
  | unexpectedPath path => "unexpected path '" ++ path ++ "'"

namespace Options

def empty : Options :=
  ⟨none, none, none, none, none, none, false⟩

/-- The greatest number of workers that may be asked for. -/
def maxThreads : Nat := 18446744073709551615

/-- A number of workers: digits, after a plus sign if there is one. -/
def threads? (value : String) : Option Nat :=
  let ds := match value.toList with
    | '+' :: ds => ds
    | ds => ds
  (Text.numeral? ds).filter (· ≤ maxThreads)

def fill {α : Type} (name : String) (old : Option α) (new : α) : Except UsageError (Option α) :=
  match old with
  | none => .ok (some new)
  | some _ => .error (.repeatedOption name)

/-- A path as a value, which is not empty. -/
def path (setting : Setting) (value : String) : Except UsageError String :=
  if value = "" then .error (.invalidValue setting value) else .ok value

def set (o : Options) (setting : Setting) (value : String) : Except UsageError Options := do
  match setting with
  | .config => .ok { o with config := ← fill setting.name o.config (← path setting value) }
  | .earliest => .ok { o with earliest := ← fill setting.name o.earliest value }
  | .latest => .ok { o with latest := ← fill setting.name o.latest value }
  | .output => .ok { o with output := ← fill setting.name o.output (← path setting value) }
  | .threads =>
    match threads? value with
    | some n => .ok { o with threads := ← fill setting.name o.threads n }
    | none => .error (.invalidValue setting value)

def setCrontab (o : Options) (value : String) : Except UsageError Options :=
  if o.crontab.isSome ∨ value = "" then .error (.unexpectedPath value)
  else .ok { o with crontab := some value }

/-- Asks for the layout over several lines. -/
def setPretty (o : Options) : Except UsageError Options :=
  if o.pretty then .error (.repeatedOption "pretty") else .ok { o with pretty := true }

end Options

/-- How far arguments have been read. -/
structure Scan where
  options : Options
  /-- The option whose value comes next. -/
  pending : Option Setting
  /-- Whether there are only paths from now on. -/
  onlyPaths : Bool

namespace Scan

/-- Why reading ends before the last argument. -/
inductive Stop where
  | refused (error : UsageError)
  | help
  | version

def start : Scan :=
  ⟨.empty, none, false⟩

def withOptions (s : Scan) (options : Except UsageError Options) : Except Stop Scan :=
  match options with
  | .ok options => .ok ⟨options, none, s.onlyPaths⟩
  | .error error => .error (.refused error)

/-- Whether an argument may stand by itself as a path or as a value. A single dash may. -/
def isOperand (argument : String) : Bool :=
  argument = "-" || argument.toList.head? ≠ some '-'

/-- An option with two dashes: its name, and its value after an equals sign. -/
def long (s : Scan) (name : String) (value : Option String) : Except Stop Scan :=
  match Setting.ofName? name, value with
  | some setting, some value => s.withOptions (s.options.set setting value)
  | some setting, none => .ok { s with pending := some setting }
  | none, value =>
    if ["pretty", "help", "version"].contains name && value.isSome then
      .error (.refused (.needlessValue name))
    else if name = "pretty" then s.withOptions s.options.setPretty
    else if name = "help" then .error .help
    else if name = "version" then .error .version
    else .error (.refused (.unknownOption ("--" ++ name)))

/-- An option with one dash: its letter, and what follows it directly. -/
def short (s : Scan) (letter : Char) (value : List Char) : Except Stop Scan :=
  match letter, value with
  | 'o', [] => .ok { s with pending := some .output }
  | 'o', '=' :: value => s.withOptions (s.options.set .output (String.ofList value))
  | 'o', value => s.withOptions (s.options.set .output (String.ofList value))
  | 'h', _ => .error .help
  | 'V', _ => .error .version
  | _, _ => .error (.refused (.unknownOption (String.ofList ['-', letter])))

/-- An argument that is not the value of an option. -/
def freeArgument (s : Scan) (argument : String) : Except Stop Scan :=
  if s.onlyPaths ∨ isOperand argument then s.withOptions (s.options.setCrontab argument)
  else
    match argument.toList with
    | ['-', '-'] => .ok { s with onlyPaths := true }
    | '-' :: '-' :: text =>
      let name := String.ofList (text.takeWhile (· ≠ '='))
      match text.dropWhile (· ≠ '=') with
      | _ :: value => s.long name (some (String.ofList value))
      | [] => s.long name none
    | '-' :: letter :: value => s.short letter value
    | _ => .error (.refused (.unknownOption argument))

def step (s : Scan) (argument : String) : Except Stop Scan :=
  match s.pending with
  | some setting =>
    if isOperand argument then s.withOptions (s.options.set setting argument)
    else .error (.refused (.missingValue setting))
  | none => s.freeArgument argument

end Scan

/-- What a list of arguments asks for. -/
def Request.ofArguments (arguments : List String) : Except UsageError Request :=
  match arguments.foldlM Scan.step Scan.start with
  | .ok ⟨options, none, _⟩ => .ok (.timeline options)
  | .ok ⟨_, some setting, _⟩ => .error (.missingValue setting)
  | .error .help => .ok .help
  | .error .version => .ok .version
  | .error (.refused error) => .error error

end Timetable
