import AssemblyGate.Assembler.Availability
import AssemblyGate.Assembler.Error
import AssemblyGate.Assembler.Outcome
import AssemblyGate.Assembler.Run
import AssemblyGate.Assembler.Staging
import AssemblyGate.Host.Basic
import AssemblyGate.Host.Fault
import AssemblyGate.Host.Path
import AssemblyGate.Http.Answers
import AssemblyGate.Http.Request
import AssemblyGate.Http.Response
import AssemblyGate.Journal.AccessEntry
import AssemblyGate.Journal.Delivery
import AssemblyGate.Journal.Event
import AssemblyGate.Journal.Level
import AssemblyGate.Journal.Notice
import AssemblyGate.Journal.Opening
import AssemblyGate.Json.Basic
import AssemblyGate.Json.Number
import AssemblyGate.Json.Printer
import AssemblyGate.Json.Reader
import AssemblyGate.Net.Address
import AssemblyGate.Net.AddressReader
import AssemblyGate.Number.Binary64
import AssemblyGate.Number.Decimal
import AssemblyGate.Number.Notation
import AssemblyGate.Number.Power
import AssemblyGate.Posix.ByteText
import AssemblyGate.Posix.FileTree
import AssemblyGate.Posix.Image
import AssemblyGate.Posix.LogFiles
import AssemblyGate.Posix.Machine
import AssemblyGate.Posix.Pattern.CharSet
import AssemblyGate.Posix.Pattern.Glob
import AssemblyGate.Posix.Pattern.Regex
import AssemblyGate.Posix.Pattern.RegexSyntax
import AssemblyGate.Posix.Platform
import AssemblyGate.Posix.Process
import AssemblyGate.Posix.Rules.Program
import AssemblyGate.Posix.Rules.Reader
import AssemblyGate.Posix.Rules.Run
import AssemblyGate.Posix.Rules.State
import AssemblyGate.Posix.Rules.Token
import AssemblyGate.Posix.Rules.Value
import AssemblyGate.Posix.Sed.Reader
import AssemblyGate.Posix.Sed.Run
import AssemblyGate.Posix.Sed.Script
import AssemblyGate.Posix.Shell.Arguments
import AssemblyGate.Posix.Shell.Arithmetic
import AssemblyGate.Posix.Shell.Builtin
import AssemblyGate.Posix.Shell.Course
import AssemblyGate.Posix.Shell.Expansion
import AssemblyGate.Posix.Shell.Jobs
import AssemblyGate.Posix.Shell.Launch
import AssemblyGate.Posix.Shell.Reader
import AssemblyGate.Posix.Shell.Reading
import AssemblyGate.Posix.Shell.Redirect
import AssemblyGate.Posix.Shell.Run
import AssemblyGate.Posix.Shell.Script
import AssemblyGate.Posix.Shell.State
import AssemblyGate.Posix.Standard
import AssemblyGate.Posix.Tool.Awk
import AssemblyGate.Posix.Tool.Basic
import AssemblyGate.Posix.Tool.Batch
import AssemblyGate.Posix.Tool.Clock
import AssemblyGate.Posix.Tool.Closing
import AssemblyGate.Posix.Tool.Condition
import AssemblyGate.Posix.Tool.Directory
import AssemblyGate.Posix.Tool.Dump
import AssemblyGate.Posix.Tool.Escape
import AssemblyGate.Posix.Tool.Expr
import AssemblyGate.Posix.Tool.FileMode
import AssemblyGate.Posix.Tool.Files
import AssemblyGate.Posix.Tool.Find
import AssemblyGate.Posix.Tool.Format
import AssemblyGate.Posix.Tool.Grep
import AssemblyGate.Posix.Tool.Merge
import AssemblyGate.Posix.Tool.Print
import AssemblyGate.Posix.Tool.Sed
import AssemblyGate.Posix.Tool.Sort
import AssemblyGate.Posix.Tool.Table
import AssemblyGate.Posix.Tool.Text
import AssemblyGate.Server.AcceptLoop
import AssemblyGate.Server.Admission
import AssemblyGate.Server.Connection
import AssemblyGate.Server.Drain
import AssemblyGate.Server.Program
import AssemblyGate.Service.Handle
import AssemblyGate.Service.State
import AssemblyGate.Service.Submission
import AssemblyGate.Service.Validation
import AssemblyGate.Settings.Basic
import AssemblyGate.Settings.Convert
import AssemblyGate.Settings.Environment
import AssemblyGate.Settings.File
import AssemblyGate.Settings.KeyPath
import AssemblyGate.Settings.Load
import AssemblyGate.Settings.Mismatch
import AssemblyGate.Settings.Raw
import AssemblyGate.Text.Blank
import AssemblyGate.Text.LowerCase
import AssemblyGate.Text.Numeral
import AssemblyGate.Text.Printable
import AssemblyGate.Text.Quoted
import AssemblyGate.Text.Replace
import AssemblyGate.Text.Utf8
import AssemblyGate.Time.Calendar
import AssemblyGate.Time.Stamp
import AssemblyGate.Toml.Basic
import AssemblyGate.Toml.Reader
import AssemblyGate.Toml.Scalar
import AssemblyGate.Toml.Text
import AssemblyGate.Main
import AssemblyGate.Proofs.Assembler.Interleaving
import AssemblyGate.Proofs.Http.BodyReading
import AssemblyGate.Proofs.Json.Grammar
import AssemblyGate.Proofs.Json.NumberRange
import AssemblyGate.Proofs.Json.QuotedText
import AssemblyGate.Proofs.Json.ValueReader
import AssemblyGate.Proofs.Server.ConnectionTime
import AssemblyGate.Proofs.Server.Schedule
import AssemblyGate.Proofs.Service.SubmissionLanguage
import AssemblyGate.Proofs.Service.ValidationCourse
import AssemblyGate.Proofs.Text.Utf8
import AssemblyGate.Proofs.Server.Counting
import AssemblyGate.Proofs.Server.StopRequest
import AssemblyGate.Proofs.Assembler.Custody
import AssemblyGate.Proofs.Server.Crash
import AssemblyGate.Proofs.Assembler.Cleanup
import AssemblyGate.Proofs.Text.SmallLetters
import AssemblyGate.Proofs.Settings.PathKeys
import AssemblyGate.Proofs.Settings.Places
import AssemblyGate.Proofs.Settings.Variables
import AssemblyGate.Proofs.Settings.Conversion
import AssemblyGate.Proofs.Settings.Layers
import AssemblyGate.Proofs.Settings.Loading
import AssemblyGate.Proofs.Json.ReadBack
import AssemblyGate.Proofs.Service.AnswerForm
import AssemblyGate.Proofs.Assembler.Recording
import AssemblyGate.Proofs.Service.Intake
import AssemblyGate.Proofs.Service.Effects
import AssemblyGate.Proofs.Service.Confidentiality
import AssemblyGate.Proofs.Http.JsonBody
import AssemblyGate.Proofs.Assembler.Diagnostics
import AssemblyGate.Proofs.Assembler.PathLeak
import AssemblyGate.Proofs.Journal.AccessLine
import AssemblyGate.Proofs.Service.AccessLog
import AssemblyGate.Proofs.Service.Framing
import AssemblyGate.Proofs.Time.Gregorian
import AssemblyGate.Proofs.Time.Face
import AssemblyGate.Proofs.Journal.LineReading
import AssemblyGate.Proofs.Number.NumberText
import AssemblyGate.Proofs.Settings.Verbatim
import AssemblyGate.Proofs.Net.AddressText
import AssemblyGate.Proofs.Net.WrittenAddress
import AssemblyGate.Proofs.Assembler.Lookup
import AssemblyGate.Proofs.Server.Draining
import AssemblyGate.Proofs.Posix.Growth
import AssemblyGate.Proofs.Posix.PathBytes
import AssemblyGate.Proofs.Posix.ProgramSearch
import AssemblyGate.Proofs.Service.Readiness
import AssemblyGate.Proofs.Json.SourceSize
import AssemblyGate.Proofs.Service.SizeLimits
import AssemblyGate.Proofs.Posix.LogOpening
import AssemblyGate.Proofs.Journal.Outlets
import AssemblyGate.Proofs.Journal.Output
import AssemblyGate.Proofs.Journal.Interruption
import AssemblyGate.Proofs.Server.FailingLog
