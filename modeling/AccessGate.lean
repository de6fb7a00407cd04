import AccessGate.Api.Answers
import AccessGate.Api.Calls
import AccessGate.Api.Exchange
import AccessGate.Api.Review
import AccessGate.Api.Url
import AccessGate.Assoc
import AccessGate.Client.Basic
import AccessGate.Client.Document
import AccessGate.Client.Request
import AccessGate.Client.Stream
import AccessGate.Cluster.Action
import AccessGate.Cluster.Document
import AccessGate.Cluster.Error
import AccessGate.Cluster.Object
import AccessGate.Cluster.Object.Text
import AccessGate.Cluster.Patch
import AccessGate.Cluster.Selector
import AccessGate.Cluster.Store
import AccessGate.Cluster.Target
import AccessGate.Cluster.Watch
import AccessGate.Decision
import AccessGate.Decision.Document
import AccessGate.Descriptor.Basic
import AccessGate.Descriptor.Document
import AccessGate.Descriptor.Plural
import AccessGate.Descriptor.Scheme
import AccessGate.Error.Access
import AccessGate.Error.Code
import AccessGate.Identity.Basic
import AccessGate.Identity.Document
import AccessGate.Identity.Shown
import AccessGate.Json.Basic
import AccessGate.Json.Draft
import AccessGate.Json.Fields
import AccessGate.Json.Numeral
import AccessGate.Json.Parser
import AccessGate.Json.Printer
import AccessGate.Json.Record
import AccessGate.Kind.Basic
import AccessGate.Kind.Known
import AccessGate.Kind.Pod
import AccessGate.Kind.Shape
import AccessGate.Kind.Shape.Text
import AccessGate.Network.SocketAddress
import AccessGate.Number.Binary64
import AccessGate.Number.Power
import AccessGate.Number.Shortest
import AccessGate.ObjectKey
import AccessGate.Options
import AccessGate.Proofs.Api.Asking
import AccessGate.Proofs.Api.Review
import AccessGate.Proofs.Assoc
import AccessGate.Proofs.Client.Delegation
import AccessGate.Proofs.Client.Ending
import AccessGate.Proofs.Client.Failure
import AccessGate.Proofs.Client.Isolation
import AccessGate.Proofs.Client.Streaming
import AccessGate.Proofs.Client.Transparency
import AccessGate.Proofs.Cluster.Cache
import AccessGate.Proofs.Cluster.Call
import AccessGate.Proofs.Cluster.Collection
import AccessGate.Proofs.Cluster.Conjunction
import AccessGate.Proofs.Cluster.Delivery
import AccessGate.Proofs.Cluster.Documented
import AccessGate.Proofs.Cluster.Effect
import AccessGate.Proofs.Cluster.History
import AccessGate.Proofs.Cluster.Identity
import AccessGate.Proofs.Cluster.Object
import AccessGate.Proofs.Cluster.Patch
import AccessGate.Proofs.Cluster.Publication
import AccessGate.Proofs.Cluster.Reachable
import AccessGate.Proofs.Cluster.Rendering
import AccessGate.Proofs.Cluster.Repetition
import AccessGate.Proofs.Cluster.Session
import AccessGate.Proofs.Cluster.Status
import AccessGate.Proofs.Cluster.Version
import AccessGate.Proofs.Cluster.Watching
import AccessGate.Proofs.Decision.Cancellation
import AccessGate.Proofs.Decision.Impersonation
import AccessGate.Proofs.Decision.Order
import AccessGate.Proofs.Decision.Reviews
import AccessGate.Proofs.Decision.Rules
import AccessGate.Proofs.Decision.Secrecy
import AccessGate.Proofs.Identity.Document
import AccessGate.Proofs.Identity.Filing
import AccessGate.Proofs.Identity.Survival
import AccessGate.Proofs.Json.Merging
import AccessGate.Proofs.Json.Ordered
import AccessGate.Proofs.Json.Overlay
import AccessGate.Proofs.Kind.Shape
import AccessGate.Proofs.Kind.Text
import AccessGate.Proofs.Outcome
import AccessGate.Proofs.Rules.Arrangement
import AccessGate.Proofs.Rules.Canonical
import AccessGate.Proofs.Rules.Faults
import AccessGate.Proofs.Rules.Gathering
import AccessGate.Proofs.Rules.Grants
import AccessGate.Proofs.Rules.Key
import AccessGate.Proofs.Rules.Merging
import AccessGate.Proofs.Rules.Rebuilding
import AccessGate.Proofs.Rules.Targets
import AccessGate.Proofs.Settings.Gate
import AccessGate.Proofs.Settings.Layering
import AccessGate.Proofs.Settings.Record
import AccessGate.Proofs.Settings.Sections
import AccessGate.Proofs.Settings.Variables
import AccessGate.Proofs.Telemetry.Counting
import AccessGate.Proofs.Text.Lower
import AccessGate.Proofs.Text.Split
import AccessGate.Proofs.Text.Timestamp
import AccessGate.Proofs.Toml.Ordered
import AccessGate.RequestId
import AccessGate.Review.Basic
import AccessGate.Review.Document
import AccessGate.Review.Script
import AccessGate.Rules.Document
import AccessGate.Rules.Normal
import AccessGate.Rules.Policy
import AccessGate.Rules.Resource
import AccessGate.Settings.Basic
import AccessGate.Settings.Document
import AccessGate.Settings.DotEnv
import AccessGate.Settings.Environment
import AccessGate.Settings.Error
import AccessGate.Settings.Layer
import AccessGate.Settings.Loader
import AccessGate.Settings.Validation
import AccessGate.Telemetry.Directive
import AccessGate.Telemetry.Document
import AccessGate.Telemetry.Exposition
import AccessGate.Telemetry.Filter
import AccessGate.Telemetry.Installation
import AccessGate.Telemetry.Level
import AccessGate.Telemetry.LogLine
import AccessGate.Telemetry.Options
import AccessGate.Telemetry.Tally
import AccessGate.Text.Alphanumeric
import AccessGate.Text.Base64
import AccessGate.Text.Blank
import AccessGate.Text.Case
import AccessGate.Text.CaseFold
import AccessGate.Text.CaseTable
import AccessGate.Text.Category
import AccessGate.Text.CategoryTable
import AccessGate.Text.Digit
import AccessGate.Text.Pattern
import AccessGate.Text.Pattern.Class
import AccessGate.Text.Pattern.Machine
import AccessGate.Text.Pattern.Reader
import AccessGate.Text.Quoted
import AccessGate.Text.Ranges
import AccessGate.Text.Split
import AccessGate.Text.Timestamp
import AccessGate.Text.Visible
import AccessGate.Toml.DateTime
import AccessGate.Toml.Document
import AccessGate.Toml.Number
import AccessGate.Toml.Text
import AccessGate.Toml.Tree
import AccessGate.Toml.Value
import AccessGate.Verb
