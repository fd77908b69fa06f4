import Timetable.CommandLine.Arguments
import Timetable.CommandLine.Host
import Timetable.Config
/-!
# Runs

A run reads a configuration and a crontab and gives the timeline. Its stages follow one
another in a fixed order, the first one that fails ends the run, and nothing is written
before the last stage.

## Main definitions

- `Failure`, `Failure.report` — why a run fails, and how it says so
- `loadConfigOr`, `loadConfig` — the configuration of a run
- `timeline` — a run up to what it prints
- `Outcome`, `run` — a whole run with its exit status
-/

namespace Timetable

inductive Failure where
  | config (path : String) (cause : Error)
  | window (cause : Error)
  | input (cause : FileFailure)
  | crontab (cause : Error)
  | output (path : String) (cause : FileFailure)
  deriving DecidableEq, Repr

namespace Failure

def message : Failure → String
  | config path _ => "loading config " ++ path
  | window cause => cause.message
  | input _ => "reading crontab from stdin"
  | crontab cause => cause.message
  | output path _ => "writing " ++ path

/-- What the failure came from, in words. -/
def causes : Failure → List String
  | config _ cause => cause.message :: cause.causes
  | window cause => cause.causes
  | input cause => [cause.text]
  | crontab cause => cause.causes
  | output _ cause => [cause.text]

/-- A text with blanks in front of all its lines but the first. -/
def hanging (blanks : Nat) (text : String) : String :=
  String.ofList (text.toList.flatMap fun c =>
    if c = '\n' then '\n' :: List.replicate blanks ' ' else [c])

/-- The causes below a message. If there are several, they are numbered. -/
def causedBy : List String → String
  | [] => ""
  | [cause] => "\n\nCaused by:\n    " ++ hanging 4 cause
  | causes =>
    "\n\nCaused by:" ++ String.join (causes.mapIdx fun n cause =>
      "\n" ++ String.ofList ((toString n).toList.leftpad 5 ' ') ++ ": " ++ hanging 7 cause)

def report (f : Failure) : String :=
  "Error: " ++ f.message ++ causedBy f.causes ++ "\n"

end Failure

/-- The configuration file that a run looks for where no other is named. -/
def fallbackConfig : String := "cron_timeline.toml"

def inputPath : String := "-"

/-- The crontab that a run reads where no other is named. -/
def defaultCrontab : String := "crontab"

section

variable {m : Type → Type} [Monad m] (host : Host m)

def loadConfigFile (path : String) : ExceptT Failure m Config := do
  let content ← host.readText path
  ExceptT.mk (pure ((Config.load path content host.explain).mapError (Failure.config path)))

/-- The configuration in the file that is named, or else in another one if it is there, or else
nothing set. -/
def loadConfigOr (explicit : Option String) (fallback : String) : ExceptT Failure m Config := do
  match explicit with
  | some path => loadConfigFile host path
  | none =>
    if ← host.isThere fallback then loadConfigFile host fallback
    else pure Config.default

/-- The configuration of a run. -/
def loadConfig (explicit : Option String) : ExceptT Failure m Config :=
  loadConfigOr host explicit fallbackConfig

/-- The crontab with the jobs on the lines at a path, or on those of the input. -/
def loadCrontab (empty : Crontab) (path : String) : ExceptT Failure m Crontab := do
  let result ←
    if path = inputPath then do
      match ← host.readInput with
      | .ok text => pure (empty.loadText text)
      | .error cause => throw (.input cause)
    else do
      let content ← host.readText path
      pure (empty.loadFile path content)
  match result with
  | (.ok _, crontab) => pure crontab
  | (.error cause, _) => throw (.crontab cause)

/-- A run up to what it prints: the timeline and a line end, or nothing if the timeline goes
to a file. -/
def timeline (options : Options) : ExceptT Failure m String := do
  let config ← loadConfig host options.config
  let config := { config with threads := options.threads.getD config.threads }
  let today ← host.today
  let window ← ExceptT.mk (pure
    ((resolveWindow options.earliest options.latest config.window today).mapError
      Failure.window))
  let crontab ← loadCrontab host (config.crontab window)
    (options.crontab.getD defaultCrontab)
  let text := crontab.timelineText options.pretty
  match options.output with
  | none => pure (text ++ "\n")
  | some path =>
    match ← host.writeText path text with
    | .ok _ => pure ""
    | .error cause => throw (.output path cause)

end

/-- What a run leaves behind besides files. -/
structure Outcome where
  /-- Zero after success, one after a failure, two if the arguments were not accepted. -/
  status : Nat
  output : String
  /-- What is told to the user about a failure. -/
  complaint : String
  deriving DecidableEq, Repr

def versionText : String := "cron_timeline 0.1.0\n"

def helpText : String :=
  "Expand a crontab into timeline events for a time window\n\n" ++
  "Usage: cron_timeline [OPTIONS] [CRONTAB]\n\n" ++
  "Arguments:\n" ++
  "  [CRONTAB]  Crontab file to read, or \"-\" for stdin [default: crontab]\n\n" ++
  "Options:\n" ++
  "      --config <CONFIG>      TOML configuration file\n" ++
  "      --earliest <EARLIEST>  Start of the window, \"YYYY-MM-DD HH:MM\"\n" ++
  "      --latest <LATEST>      End of the window, \"YYYY-MM-DD HH:MM\"\n" ++
  "      --threads <THREADS>    Worker threads used to enumerate jobs\n" ++
  "  -o, --output <OUTPUT>      Write the timeline JSON here instead of stdout\n" ++
  "      --pretty               Pretty-print the JSON\n" ++
  "  -h, --help                 Print help\n" ++
  "  -V, --version              Print version\n"

def run {m : Type → Type} [Monad m] (host : Host m) (arguments : List String) : m Outcome := do
  match Request.ofArguments arguments with
  | .error error => pure ⟨2, "", "error: " ++ error.message ++ "\n"⟩
  | .ok .help => pure ⟨0, helpText, ""⟩
  | .ok .version => pure ⟨0, versionText, ""⟩
  | .ok (.timeline options) =>
    match ← (timeline host options).run with
    | .ok output => pure ⟨0, output, ""⟩
    | .error failure => pure ⟨1, "", failure.report⟩

end Timetable
