import Timetable.Calendar.Timestamp
import Timetable.Column
import Timetable.Text.Quoted
/-!
# Errors

Everything that can be wrong with the input, and how it is told to the user.

## Main definitions

- `FileFailure` — why a file cannot be read or written
- `Error` — what is wrong, each with what it concerns
- `Error.message` — an error in words
- `Error.causes` — the words of the errors that it came from
-/

namespace Timetable

/-- Why a file cannot be read as a text, or cannot be written. -/
inductive FileFailure where
  | notFound
  | isDirectory
  | notDirectory
  | nameTooLong
  | notUtf8
  | other (reason : String)
  deriving DecidableEq, Repr

def FileFailure.text : FileFailure → String
  | notFound => "No such file or directory (os error 2)"
  | isDirectory => "Is a directory (os error 21)"
  | notDirectory => "Not a directory (os error 20)"
  | nameTooLong => "File name too long (os error 36)"
  | notUtf8 => "stream did not contain valid UTF-8"
  | other reason => reason

inductive Error where
  | invalidToken (column : Column) (token : String)
  | missingFields (found : Nat) (line : String)
  | invalidTimestamp (value : String) (fault : Timestamp.Fault)
  | reversedWindow (earliest latest : Moment)
  | yearOutOfRange (year : Int)
  /-- An error in one line of a text; lines count from one. -/
  | atLine (line : Nat) (error : Error)
  | unreadable (path : String) (failure : FileFailure)
  /-- A configuration that is no TOML or has a value of the wrong kind. The reason is in the
  words of the reader of TOML. -/
  | invalidConfig {reason : String}
  deriving DecidableEq, Repr

def Error.message : Error → String
  | invalidToken column token =>
    "Invalid " ++ column.name ++ " field: " ++ Text.quoted token
  | missingFields found line =>
    "Expected five schedule fields, found " ++ toString found ++ ": " ++ Text.quoted line
  | invalidTimestamp value _ =>
    "Invalid timestamp " ++ Text.quoted value ++ ", expected YYYY-MM-DD HH:MM"
  | reversedWindow earliest latest =>
    "Time window starts after it ends: " ++ earliest.spacedText ++ " > " ++ latest.spacedText
  | yearOutOfRange year =>
    "Year " ++ toString year ++ " is outside the supported range 0-9999"
  | atLine line error => "Line " ++ toString line ++ ": " ++ error.message
  | unreadable path failure => "Failed to read " ++ path ++ ": " ++ failure.text
  | @invalidConfig reason => "Invalid configuration: " ++ reason

/-- What an error came from, in words: first its own cause, then the cause of that. -/
def Error.causes : Error → List String
  | invalidToken _ _ => []
  | missingFields _ _ => []
  | invalidTimestamp _ fault => [fault.text]
  | reversedWindow _ _ => []
  | yearOutOfRange _ => []
  | atLine _ error => error.message :: error.causes
  | unreadable _ failure => [failure.text]
  | @invalidConfig reason => [reason]

end Timetable
