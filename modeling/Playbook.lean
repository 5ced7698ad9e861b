import Playbook.Calendar
import Playbook.Clock
import Playbook.Config.Attribute
import Playbook.Config.Check
import Playbook.Config.Document
import Playbook.Config.Error
import Playbook.Config.Load
import Playbook.Config.Types
import Playbook.Context
import Playbook.Decimal.Binary
import Playbook.Decimal.Layout
import Playbook.Decimal.Numeral
import Playbook.Decimal.Shortest
import Playbook.Engine.Check
import Playbook.Engine.Reply
import Playbook.Engine.Run
import Playbook.Engine.Scene
import Playbook.Failure
import Playbook.Handlers
import Playbook.Json.Encoder
import Playbook.Json.OfValue
import Playbook.Json.Read
import Playbook.Json.Types
import Playbook.Operation
import Playbook.Outcome.Check
import Playbook.Outcome.Types
import Playbook.Proofs.Config.Interpolation
import Playbook.Proofs.Config.Language
import Playbook.Proofs.Config.Loading
import Playbook.Proofs.Config.Plain
import Playbook.Proofs.Config.Reading
import Playbook.Proofs.Config.RoundTrip
import Playbook.Proofs.Engine.Accounting
import Playbook.Proofs.Engine.Attempts
import Playbook.Proofs.Engine.Discipline
import Playbook.Proofs.Engine.Events
import Playbook.Proofs.Engine.Frame
import Playbook.Proofs.Engine.Hazards
import Playbook.Proofs.Engine.Likeness
import Playbook.Proofs.Engine.Releases
import Playbook.Proofs.Engine.Remapper
import Playbook.Proofs.Engine.Replacement
import Playbook.Proofs.Engine.Returns
import Playbook.Proofs.Engine.Threading
import Playbook.Proofs.Engine.Truncation
import Playbook.Proofs.Hiding
import Playbook.Proofs.Operation.Callers
import Playbook.Proofs.Operation.FreshContext
import Playbook.Proofs.Outcome.Times
import Playbook.Proofs.Schema.Check
import Playbook.Proofs.Schema.Coercion
import Playbook.Proofs.Schema.Spelling
import Playbook.Proofs.Store
import Playbook.Proofs.Template.Occurrence
import Playbook.Proofs.Template.Shape
import Playbook.Registry
import Playbook.Registry.Calls
import Playbook.Report
import Playbook.Schema.Issue
import Playbook.Schema.Mapping
import Playbook.Schema.Scalar
import Playbook.Service
import Playbook.Store
import Playbook.Template
import Playbook.Text.Blank
import Playbook.Text.Digit
import Playbook.Text.Literal
import Playbook.Text.Printable
import Playbook.Text.Quoted
import Playbook.Text.Utf8
import Playbook.Url.Absolute
import Playbook.Url.Address
import Playbook.Url.Characters
import Playbook.Url.Domain
import Playbook.Url.Punycode
import Playbook.Value
import Playbook.Yaml.Cursor
import Playbook.Yaml.Document
import Playbook.Yaml.Node
import Playbook.Yaml.Problem
import Playbook.Yaml.Scalar
import Playbook.Yaml.Token
import Playbook.Yaml.Typed
import Playbook.Proofs.Operation.Cookies
import Playbook.Proofs.Operation.Failures
import Playbook.Proofs.Operation.Counterparts
import Playbook.Proofs.Engine.Observers
import Playbook.Proofs.Operation.Stages
import Playbook.Proofs.Config.Secrets
import Playbook.Proofs.Registry.OrderedMap
import Playbook.Proofs.Registry.Refinement
import Playbook.Proofs.Json.Accounts
import Playbook.Proofs.Json.Laws
import Playbook.Proofs.Json.Standard
import Playbook.Proofs.Service.Answers
import Playbook.Proofs.Template.Substitution
import Playbook.Proofs.Defaults
import Playbook.Proofs.Service.Overrides
import Playbook.Proofs.Service.Prediction
import Playbook.Proofs.Reshaping
import Playbook.Proofs.Engine.Shapes
import Playbook.Proofs.Outcome.Reading
import Playbook.Proofs.Engine.Dispatch
import Playbook.Proofs.Engine.Log
import Playbook.Proofs.Operator.Outcomes
import Playbook.Proofs.Json.Circles
import Playbook.Proofs.Operator.Documents
import Playbook.Proofs.Engine.Leaks
import Playbook.Proofs.Engine.Turns
import Playbook.Proofs.Config.Accessors
import Playbook.Proofs.Operator.BaseUrl
import Playbook.Proofs.Operator.Breakdown
import Playbook.Proofs.Operator.FailedSteps
