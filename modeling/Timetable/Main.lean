import Std.Time.Zoned
import Timetable.CommandLine.Run
/-!
# The program

Connects a run to the files, the input and the clock of the system.
-/

namespace Timetable

/-- The number of an error of the system. Some calls give its negative. -/
def errorNumber (code : UInt32) : Nat :=
  if code < 0x80000000 then code.toNat else (0 - code).toNat

def FileFailure.ofSystem (error : IO.Error) : FileFailure :=
  match error with
  | .noFileOrDirectory .. => .notFound
  | .inappropriateType _ code _ | .invalidArgument _ code _ =>
    match errorNumber code with
    | 20 => .notDirectory
    | 21 => .isDirectory
    | 36 => .nameTooLong
    | _ => .other (toString error)
  | _ => .other (toString error)

def textOf (bytes : ByteArray) : Except FileFailure String :=
  match String.fromUTF8? bytes with
  | some text => .ok text
  | none => .error .notUtf8

/-- All bytes of a stream after those read already. -/
partial def readAll (stream : IO.FS.Stream) (bytes : ByteArray) : IO ByteArray := do
  let more ← stream.read 65536
  if more.isEmpty then pure bytes else readAll stream (bytes ++ more)

/-- The date in the system's time zone, or in universal time where that is not known. -/
def systemDate : IO Date := do
  let today ←
    try Std.Time.PlainDate.now
    catch _ => do
      let now ← Std.Time.Timestamp.now
      pure (Std.Time.PlainDate.ofEpochDay now.toDaysSinceUnixEpoch)
  match Date.of? today.year today.month.toNat today.day.toNat with
  | some date => pure date
  | none => throw (IO.userError "the system has no date")

def Host.system : Host IO where
  today := systemDate
  isThere path := (System.mkFilePath [path]).pathExists
  readText path := do
    try
      pure (textOf (← IO.FS.readBinFile path))
    catch error => pure (.error (.ofSystem error))
  readInput := do
    try
      pure (textOf (← readAll (← IO.getStdin) .empty))
    catch error => pure (.error (.ofSystem error))
  writeText path text := do
    try
      IO.FS.writeFile path text
      pure (.ok ())
    catch error => pure (.error (.ofSystem error))
  explain _ := "the text is no TOML, or has a value of the wrong kind"

end Timetable

open Timetable in
/-- Runs on the system and ends with the status of the run. -/
def main (arguments : List String) : IO UInt32 := do
  let outcome ← run Host.system arguments
  IO.print outcome.output
  IO.eprint outcome.complaint
  pure outcome.status.toUInt32
