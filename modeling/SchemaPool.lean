import SchemaPool.Client.Steps
import SchemaPool.Database.Codec
import SchemaPool.Json.Printer
import SchemaPool.Json.Reader
import SchemaPool.Main
import SchemaPool.Program.Run
import SchemaPool.Session.StandIn
import SchemaPool.Settings.Codec
import SchemaPool.Settings.Validation
import SchemaPool.Timing.Trace
import SchemaPool.Proofs.Timing.Reporting
import SchemaPool.Proofs.Timing.Matching
import SchemaPool.Proofs.Client.Action
import SchemaPool.Proofs.Client.Acquisition
import SchemaPool.Proofs.Client.Invariant
import SchemaPool.Proofs.Client.Protocol
import SchemaPool.Proofs.Client.Sessions
import SchemaPool.Proofs.Sql.Token
import SchemaPool.Proofs.Schema.Statements
import SchemaPool.Proofs.Settings.Masking
import SchemaPool.Proofs.Client.Service
import SchemaPool.Proofs.Client.Race
import SchemaPool.Proofs.Client.Agreement
import SchemaPool.Proofs.Client.Alike
import SchemaPool.Proofs.Client.Transparency
import SchemaPool.Proofs.Timing.Moments
import SchemaPool.Proofs.Timing.Sharing
import SchemaPool.Proofs.Timing.Isolation
import SchemaPool.Proofs.Timing.Filtering
import SchemaPool.Proofs.Client.Asking
import SchemaPool.Proofs.Program.Visibility
import SchemaPool.Proofs.Program.Outcome
import SchemaPool.Proofs.Timing.Remembering
import SchemaPool.Proofs.Timing.Abandonment
import SchemaPool.Proofs.Timing.Heeding
import SchemaPool.Proofs.Timing.FirstMonitor
import SchemaPool.Proofs.Client.Keeping
import SchemaPool.Proofs.Client.Lockstep
import SchemaPool.Proofs.Client.Closing
import SchemaPool.Proofs.Client.Clones
import SchemaPool.Proofs.Timing.Sources
import SchemaPool.Proofs.Schema.LostRace
import SchemaPool.Proofs.Sql.Quoting
import SchemaPool.Proofs.Sql.Words
import SchemaPool.Proofs.Sql.Labelling
import SchemaPool.Proofs.Sql.LabelShape
import SchemaPool.Proofs.Sql.WriteTarget
import SchemaPool.Proofs.Settings.Bounds
import SchemaPool.Proofs.Client.Refusal
import SchemaPool.Proofs.Text.Trimming
import SchemaPool.Proofs.Schema.Naming
import SchemaPool.Proofs.Text.Numeral
import SchemaPool.Proofs.Settings.ThresholdText
import SchemaPool.Proofs.Timing.Decision
import SchemaPool.Proofs.Settings.Passwordless
import SchemaPool.Proofs.Client.Described
import SchemaPool.Proofs.Settings.Disclosure
import SchemaPool.Proofs.Settings.Forms
import SchemaPool.Proofs.Pool.Rounding
import SchemaPool.Proofs.Pool.Pressure
import SchemaPool.Proofs.CommandLine.Words
import SchemaPool.Proofs.CommandLine.Grammar
import SchemaPool.Proofs.CommandLine.Drafts
import SchemaPool.Proofs.CommandLine.Precedence
import SchemaPool.Proofs.Text.Overlap
import SchemaPool.Proofs.Timing.ListedValues
