import Intake.Database.Address
import Intake.Database.Engine
import Intake.Form.Normal
import Intake.Form.Payload
import Intake.Form.Question
import Intake.Form.Record
import Intake.Form.Submission
import Intake.Http.Host
import Intake.Http.Label
import Intake.Http.LabelTable
import Intake.Http.Origin
import Intake.Http.Phrase
import Intake.Http.Reply
import Intake.Http.RequestId
import Intake.Http.Route
import Intake.Http.Url
import Intake.Json.Body
import Intake.Json.Display
import Intake.Json.Misuse
import Intake.Json.Printer
import Intake.Json.Reader
import Intake.Json.Value
import Intake.Logging.Level
import Intake.Notification.Basic
import Intake.Number.Binary64
import Intake.Number.Shortest
import Intake.Number.Significant
import Intake.Number.Typed
import Intake.Problem.Basic
import Intake.Problem.Failure
import Intake.Proofs.Form.Accepting
import Intake.Proofs.Form.Columns
import Intake.Proofs.Form.Creation
import Intake.Proofs.Form.Fitting
import Intake.Proofs.Form.Gate
import Intake.Proofs.Form.Inherited
import Intake.Proofs.Form.ReadBack
import Intake.Proofs.Form.Resubmitting
import Intake.Proofs.Form.Shown
import Intake.Proofs.Form.Stored
import Intake.Proofs.Form.Unrelated
import Intake.Proofs.Http.Host
import Intake.Proofs.Http.Label
import Intake.Proofs.Http.Normal
import Intake.Proofs.Http.Path
import Intake.Proofs.Json.Escape
import Intake.Proofs.Json.Members
import Intake.Proofs.Json.Numeral
import Intake.Proofs.Json.Regularity
import Intake.Proofs.Json.RoundTrip
import Intake.Proofs.Json.Scalar
import Intake.Proofs.Json.Settled
import Intake.Proofs.Json.Telling
import Intake.Proofs.Notification.Shape
import Intake.Proofs.Number.Rounding
import Intake.Proofs.Number.Shortest
import Intake.Proofs.Number.Typed
import Intake.Proofs.Remote.Addressing
import Intake.Proofs.Remote.Asking
import Intake.Proofs.Rule.Extending
import Intake.Proofs.Rule.Meaning
import Intake.Proofs.Rule.NormalForm
import Intake.Proofs.Rule.Reading
import Intake.Proofs.Rule.References
import Intake.Proofs.Schema.Passing
import Intake.Proofs.Service.Accounts
import Intake.Proofs.Service.Calling
import Intake.Proofs.Service.Converging
import Intake.Proofs.Service.Creating
import Intake.Proofs.Service.Delivering
import Intake.Proofs.Service.Effect
import Intake.Proofs.Service.Ending
import Intake.Proofs.Service.Exec
import Intake.Proofs.Service.Failing
import Intake.Proofs.Service.Keeping
import Intake.Proofs.Service.Lifecycle
import Intake.Proofs.Service.Mounting
import Intake.Proofs.Service.Outage
import Intake.Proofs.Service.Parts
import Intake.Proofs.Service.Provenance
import Intake.Proofs.Service.Reading
import Intake.Proofs.Service.RecordIds
import Intake.Proofs.Service.Reflecting
import Intake.Proofs.Service.Replies
import Intake.Proofs.Service.Responses
import Intake.Proofs.Service.Steady
import Intake.Proofs.Service.Submitting
import Intake.Proofs.Service.Tolerating
import Intake.Proofs.Service.Turn
import Intake.Proofs.Service.Writing
import Intake.Proofs.Store.Cell
import Intake.Proofs.Store.Newest
import Intake.Proofs.Text.Digits
import Intake.Proofs.Text.Percent
import Intake.Proofs.Text.Pieces
import Intake.Remote.Client
import Intake.Remote.Peer
import Intake.Response.Record
import Intake.Rule.Condition
import Intake.Rule.Equality
import Intake.Rule.Record
import Intake.Rule.Shown
import Intake.Rule.Visibility
import Intake.Schema.Date
import Intake.Schema.Issue
import Intake.Schema.Moment
import Intake.Schema.Moment.Basic
import Intake.Schema.Moment.Calendar
import Intake.Schema.Moment.Count
import Intake.Schema.Scalar
import Intake.Service.Answering
import Intake.Service.Authoring
import Intake.Service.Handle
import Intake.Service.Reconciliation
import Intake.Service.Records
import Intake.Service.State
import Intake.Settings.Access
import Intake.Settings.Load
import Intake.Settings.Setting
import Intake.Settings.World
import Intake.Store.Basic
import Intake.Store.Cell
import Intake.Store.Row
import Intake.Table.Column
import Intake.Table.Draft
import Intake.Text.Basic
import Intake.Text.Blank
import Intake.Text.Case
import Intake.Text.CaseTable
import Intake.Text.Composition
import Intake.Text.CompositionTable
import Intake.Text.Digit
import Intake.Text.Direction
import Intake.Text.Joining
import Intake.Text.Mark
import Intake.Text.Percent
import Intake.Text.Printable
import Intake.Text.Punycode
import Intake.Text.Script
import Intake.Text.Units
import Intake.Text.Utf8
import Intake.Proofs.Rule.Containing
import Intake.Proofs.Rule.Interchange
import Intake.Proofs.Rule.Duality
import Intake.Proofs.Form.Normalising
import Intake.Proofs.Service.Counting
import Intake.Proofs.Remote.Understanding
import Intake.Proofs.Table.Drafting
import Intake.Proofs.Table.Forwarding
import Intake.Proofs.Settings.Precedence
import Intake.Proofs.Service.Admitting
import Intake.Proofs.Http.Naming
import Intake.Proofs.Database.Sharing
import Intake.Proofs.Text.Ends
import Intake.Proofs.Number.Displayed
import Intake.Proofs.Json.Line
import Intake.Proofs.Json.Halves
import Intake.Proofs.Settings.Reloading
import Intake.Text.Names
import Intake.Service.Environment
