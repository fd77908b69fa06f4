import Timetable.Attributes
import Timetable.Cadence
import Timetable.Calendar.Date
import Timetable.Calendar.Moment
import Timetable.Calendar.Reading
import Timetable.Calendar.StampKey
import Timetable.Calendar.Timestamp
import Timetable.Column
import Timetable.CommandLine.Arguments
import Timetable.CommandLine.Host
import Timetable.CommandLine.Run
import Timetable.Config
import Timetable.Config.Bounds
import Timetable.Crontab
import Timetable.Decimal.Binary64
import Timetable.Decimal.Shortest
import Timetable.Error
import Timetable.Event
import Timetable.Field
import Timetable.Field.Token
import Timetable.Job
import Timetable.Job.Pool
import Timetable.Json
import Timetable.Json.Printer
import Timetable.Main
import Timetable.Occurrences
import Timetable.Schedule
import Timetable.Style
import Timetable.Text.Blank
import Timetable.Text.Lines
import Timetable.Text.Numeral
import Timetable.Text.Quoted
import Timetable.Text.Reader
import Timetable.Text.Unseen
import Timetable.Toml.Datetime
import Timetable.Toml.Document
import Timetable.Toml.Expression
import Timetable.Toml.NumberLiteral
import Timetable.Toml.Space
import Timetable.Toml.StringLiteral
import Timetable.Toml.Table
import Timetable.Toml.Value
import Timetable.Window
import Timetable.Proofs.Results
import Timetable.Proofs.KeyedLists
import Timetable.Proofs.AttributeMaps
import Timetable.Proofs.Calendar
import Timetable.Proofs.Minutes
import Timetable.Proofs.PaddedNumerals
import Timetable.Proofs.WrittenMoments
import Timetable.Proofs.KeyOrder
import Timetable.Proofs.Occurrences
import Timetable.Proofs.Chronology
import Timetable.Proofs.EveryMinute
import Timetable.Proofs.WorkerPool
import Timetable.Proofs.Loading
import Timetable.Proofs.Interleavings
import Timetable.Proofs.Lines
import Timetable.Proofs.LineByLine
import Timetable.Proofs.JoinedTexts
import Timetable.Proofs.Tokens
import Timetable.Proofs.Words
import Timetable.Proofs.ScheduleLine
import Timetable.Proofs.SkippedLines
import Timetable.Proofs.NarrowerWindows
import Timetable.Proofs.TitleOrder
import Timetable.Proofs.LoadingOrder
import Timetable.Proofs.TimelineOrder
import Timetable.Proofs.Files
import Timetable.Proofs.WrittenStyles
import Timetable.Proofs.ConfigurationText
import Timetable.Proofs.WindowEnds
import Timetable.Proofs.OverriddenSettings
import Timetable.Proofs.Stages
import Timetable.Proofs.FirstFailure
import Timetable.Proofs.ThreadsOption
import Timetable.Proofs.AllOrNothing
import Timetable.Proofs.AscendingLines
import Timetable.Proofs.Rendering
import Timetable.Proofs.Extremes
import Timetable.Proofs.DistinctMinutes
import Timetable.Proofs.FiveMinutes
import Timetable.Proofs.EventObjects
import Timetable.Proofs.WindowText
import Timetable.Proofs.Weeks
import Timetable.Proofs.Presentation
import Timetable.Proofs.ExactKeys
import Timetable.Proofs.InsertedLines
