import Decommission.Clock
import Decommission.CommandLine.Basic
import Decommission.CommandLine.Option
import Decommission.CommandLine.Read
import Decommission.Config.Basic
import Decommission.Config.Document
import Decommission.Config.Load
import Decommission.Config.Validate
import Decommission.Control.Calls
import Decommission.Control.Cancellation
import Decommission.Control.Launchctl
import Decommission.Control.Manager
import Decommission.Control.Outcome
import Decommission.Decimal.Binary64
import Decommission.Decimal.Shortest
import Decommission.Fault
import Decommission.FileSystem.Arrange
import Decommission.FileSystem.Basic
import Decommission.FileSystem.Content
import Decommission.FileSystem.Remove
import Decommission.FileSystem.Resolve
import Decommission.Invocation
import Decommission.Json.Cursor
import Decommission.Json.ReadError
import Decommission.Json.Record
import Decommission.Json.Skip
import Decommission.Json.Token
import Decommission.Json.Value
import Decommission.Main
import Decommission.Path
import Decommission.Proofs.CommandLine.EntryPoint
import Decommission.Proofs.CommandLine.Installer
import Decommission.Proofs.Config.Meaning
import Decommission.Proofs.Config.Reasons
import Decommission.Proofs.Config.RoundTrip
import Decommission.Proofs.Config.Validity
import Decommission.Proofs.Control.Children
import Decommission.Proofs.Control.Course
import Decommission.Proofs.Control.Interleaving
import Decommission.Proofs.Control.Labels
import Decommission.Proofs.Control.Registration
import Decommission.Proofs.Control.Threads
import Decommission.Proofs.FileSystem.Age
import Decommission.Proofs.FileSystem.Arranged
import Decommission.Proofs.FileSystem.Components
import Decommission.Proofs.FileSystem.Entries
import Decommission.Proofs.FileSystem.Followed
import Decommission.Proofs.FileSystem.LastName
import Decommission.Proofs.FileSystem.Loss
import Decommission.Proofs.FileSystem.Objects
import Decommission.Proofs.FileSystem.Part
import Decommission.Proofs.FileSystem.Removal
import Decommission.Proofs.FileSystem.Trail
import Decommission.Proofs.FileSystem.Tree
import Decommission.Proofs.FileSystem.Vacancy
import Decommission.Proofs.FileSystem.Walk
import Decommission.Proofs.Invocation.Layers
import Decommission.Proofs.Invocation.Record
import Decommission.Proofs.Invocation.Status
import Decommission.Proofs.Invocation.TextLines
import Decommission.Proofs.Json.Members
import Decommission.Proofs.Json.Numbers
import Decommission.Proofs.Json.Passing
import Decommission.Proofs.Json.Printing
import Decommission.Proofs.Json.Reading
import Decommission.Proofs.Json.Rearranging
import Decommission.Proofs.Json.Records
import Decommission.Proofs.Json.Tokens
import Decommission.Proofs.Json.Written
import Decommission.Proofs.Log.Bound
import Decommission.Proofs.Log.Line
import Decommission.Proofs.Log.Logbook
import Decommission.Proofs.Results
import Decommission.Proofs.Run.Answers
import Decommission.Proofs.Run.Bind
import Decommission.Proofs.Run.Cleaning
import Decommission.Proofs.Run.Closing
import Decommission.Proofs.Run.Diagnostics
import Decommission.Proofs.Run.DryRun
import Decommission.Proofs.Run.Events
import Decommission.Proofs.Run.Fatal
import Decommission.Proofs.Run.Frame
import Decommission.Proofs.Run.Idempotence
import Decommission.Proofs.Run.Independence
import Decommission.Proofs.Run.Law
import Decommission.Proofs.Run.Lines
import Decommission.Proofs.Run.Moment
import Decommission.Proofs.Run.Order
import Decommission.Proofs.Run.Parallel
import Decommission.Proofs.Run.Plainness
import Decommission.Proofs.Run.Prediction
import Decommission.Proofs.Run.Races
import Decommission.Proofs.Run.Reach
import Decommission.Proofs.Run.Remains
import Decommission.Proofs.Run.Removals
import Decommission.Proofs.Run.Rounds
import Decommission.Proofs.Run.Running
import Decommission.Proofs.Run.Shape
import Decommission.Proofs.Run.SingleUse
import Decommission.Proofs.Run.Stages
import Decommission.Proofs.Run.Stopping
import Decommission.Proofs.Run.Success
import Decommission.Proofs.Run.Target
import Decommission.Proofs.Run.Timeout
import Decommission.Proofs.Run.Transcript
import Decommission.Proofs.Run.Wording
import Decommission.Proofs.Text.Lossy
import Decommission.Proofs.Text.OneLine
import Decommission.Proofs.Text.Utf8
import Decommission.Rehearsal.Ground
import Decommission.Rehearsal.Processes
import Decommission.Rehearsal.Programs
import Decommission.Rehearsal.Script
import Decommission.Rehearsal.Time
import Decommission.Run.Act
import Decommission.Run.Cleanup
import Decommission.Run.Perform
import Decommission.Run.Stop
import Decommission.RunLog
import Decommission.Service
import Decommission.Stage
import Decommission.StopPolicy
import Decommission.SystemError
import Decommission.Target
import Decommission.Text.Blank
import Decommission.Text.Digits
import Decommission.Text.Extending
import Decommission.Text.Plain
import Decommission.Text.Printable
import Decommission.Text.Quoted
import Decommission.Text.Utf8
