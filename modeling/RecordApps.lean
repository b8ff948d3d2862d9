import RecordApps.Access.Capabilities
import RecordApps.Access.Priority
import RecordApps.Access.Resolution
import RecordApps.Access.Rule
import RecordApps.Access.Stored
import RecordApps.Actor
import RecordApps.AppId
import RecordApps.Condition
import RecordApps.Condition.Stored
import RecordApps.Config
import RecordApps.Decimal.Layout
import RecordApps.Decimal.Reader
import RecordApps.Decimal.Scaled
import RecordApps.Decimal.Scientific
import RecordApps.Derived.Lookup
import RecordApps.Derived.Recompute
import RecordApps.Engine.Bundle
import RecordApps.Engine.Definitions
import RecordApps.Engine.Records
import RecordApps.Engine.Request
import RecordApps.Fault
import RecordApps.Field.Calendar
import RecordApps.Field.Link
import RecordApps.Field.Stored
import RecordApps.Field.Type
import RecordApps.Field.Validation
import RecordApps.Field.Value
import RecordApps.Formula.Basic
import RecordApps.Formula.Expr
import RecordApps.Formula.Fault
import RecordApps.Formula.Token
import RecordApps.KeyMap
import RecordApps.Main
import RecordApps.NonBlank
import RecordApps.Notification.Rule
import RecordApps.Notification.Template
import RecordApps.Process.Graph
import RecordApps.Process.Stored
import RecordApps.Process.Transition
import RecordApps.Proofs.Access.Deciding
import RecordApps.Proofs.Access.FieldRows
import RecordApps.Proofs.Access.Filtering
import RecordApps.Proofs.Access.Mediation
import RecordApps.Proofs.Access.Noninterference
import RecordApps.Proofs.Access.Ownership
import RecordApps.Proofs.Access.Ranking
import RecordApps.Proofs.Access.Related
import RecordApps.Proofs.Access.Resolution
import RecordApps.Proofs.Access.Saving
import RecordApps.Proofs.Access.Tables
import RecordApps.Proofs.Condition.RecordNumber
import RecordApps.Proofs.Condition.Text
import RecordApps.Proofs.Decimal.Accuracy
import RecordApps.Proofs.Decimal.Comparison
import RecordApps.Proofs.Decimal.Nearest
import RecordApps.Proofs.Decimal.Packing
import RecordApps.Proofs.Decimal.Rounding
import RecordApps.Proofs.Decimal.Scaled
import RecordApps.Proofs.Decimal.Shortest
import RecordApps.Proofs.Decimal.Zeros
import RecordApps.Proofs.Derived.Calculated
import RecordApps.Proofs.Derived.Copies
import RecordApps.Proofs.Derived.Frame
import RecordApps.Proofs.Derived.Solution
import RecordApps.Proofs.Engine.Atomic
import RecordApps.Proofs.Engine.Defences
import RecordApps.Proofs.Engine.DefinitionEffect
import RecordApps.Proofs.Engine.Reachable
import RecordApps.Proofs.Engine.RecordEffect
import RecordApps.Proofs.Engine.RecordFrame
import RecordApps.Proofs.Engine.RuleFrame
import RecordApps.Proofs.Engine.Run
import RecordApps.Proofs.Engine.Seeding
import RecordApps.Proofs.Faults
import RecordApps.Proofs.Field.Initial
import RecordApps.Proofs.Field.InitialRows
import RecordApps.Proofs.Field.Stored
import RecordApps.Proofs.Field.Subtable
import RecordApps.Proofs.Field.Uploads
import RecordApps.Proofs.Formula.Evaluation
import RecordApps.Proofs.Formula.Grammar
import RecordApps.Proofs.Formula.Operands
import RecordApps.Proofs.Formula.Parsing
import RecordApps.Proofs.Formula.Splitting
import RecordApps.Proofs.KeyMap
import RecordApps.Proofs.Notification.Evaluation
import RecordApps.Proofs.Notification.Pending
import RecordApps.Proofs.Notification.Recipients
import RecordApps.Proofs.Notification.Template
import RecordApps.Proofs.Outcome
import RecordApps.Proofs.Process.Assignment
import RecordApps.Proofs.Process.Availability
import RecordApps.Proofs.Process.Graph
import RecordApps.Proofs.Process.Run
import RecordApps.Proofs.Process.Snapshot
import RecordApps.Proofs.Process.Status
import RecordApps.Proofs.RecordStore
import RecordApps.Proofs.RecordStore.Exhaustion
import RecordApps.Proofs.RecordStore.Runs
import RecordApps.Proofs.Records.CalculatedValues
import RecordApps.Proofs.Records.Constraints
import RecordApps.Proofs.Records.EqualNumbers
import RecordApps.Proofs.Records.Identity
import RecordApps.Proofs.Records.Metadata
import RecordApps.Proofs.Records.Place
import RecordApps.Proofs.Records.Provenance
import RecordApps.Proofs.Records.ReadBack
import RecordApps.Proofs.Records.Repeat
import RecordApps.Proofs.Records.Run
import RecordApps.Proofs.Records.Update
import RecordApps.Proofs.Records.WrittenValues
import RecordApps.Proofs.Schema.CalculationOrder
import RecordApps.Proofs.Schema.Dependencies
import RecordApps.Proofs.Schema.History
import RecordApps.Proofs.Schema.Persisted
import RecordApps.Proofs.Schema.Resaving
import RecordApps.Proofs.Schema.Retirement
import RecordApps.Proofs.Schema.Stability
import RecordApps.Proofs.Schema.Validity
import RecordApps.Proofs.Service
import RecordApps.Proofs.Text.Words
import RecordApps.Proofs.Value.Decoding
import RecordApps.Proofs.Value.Numbers
import RecordApps.Proofs.Value.Reading
import RecordApps.Proofs.Value.Rereading
import RecordApps.Proofs.Value.StoredForms
import RecordApps.Proofs.Web.Address
import RecordApps.Proofs.Web.Domain
import RecordApps.Proofs.Web.Punycode
import RecordApps.Record
import RecordApps.RecordFilter
import RecordApps.RecordStore
import RecordApps.Schema.Basic
import RecordApps.Schema.Calculation
import RecordApps.Schema.Evolution
import RecordApps.Schema.Input
import RecordApps.Schema.Stored
import RecordApps.Schema.Validation
import RecordApps.Table
import RecordApps.Text.Blank
import RecordApps.Value.Basic
import RecordApps.Value.Coerce
import RecordApps.Value.Decode
import RecordApps.Value.Parser
import RecordApps.Value.Written
import RecordApps.Web.Address
import RecordApps.Web.Domain
import RecordApps.Web.DomainTable
import RecordApps.Web.Host
import RecordApps.Web.Punycode
import RecordApps.Workspace.Basic
import RecordApps.Workspace.Notification
import RecordApps.Workspace.Process
import RecordApps.Workspace.View
