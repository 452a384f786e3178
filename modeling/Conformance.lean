import Conformance.Address.Host
import Conformance.Address.Ip
import Conformance.Address.Mail
import Conformance.Address.Uri
import Conformance.Calendar.Date
import Conformance.Calendar.Instant
import Conformance.Calendar.Patterned
import Conformance.Constraint.Check
import Conformance.Constraint.Compile
import Conformance.Constraint.Compiled
import Conformance.Constraint.Error
import Conformance.Constraint.Layout
import Conformance.Constraint.Reading
import Conformance.Decimal.Binary64
import Conformance.Decimal.Digits
import Conformance.Decimal.Layout
import Conformance.Decimal.Numeral
import Conformance.Expr.Admission
import Conformance.Expr.Evaluation
import Conformance.Expr.Grammar
import Conformance.Expr.Library
import Conformance.Expr.Scope
import Conformance.Expr.Template
import Conformance.Expr.Token
import Conformance.Expr.Tree
import Conformance.Failure
import Conformance.Fault
import Conformance.Message.Basic
import Conformance.Pattern.Basic
import Conformance.Pattern.Kin
import Conformance.Pattern.Reader
import Conformance.Pattern.Search
import Conformance.Program.Basic
import Conformance.Program.Cache
import Conformance.Proofs.Constraint.Declared
import Conformance.Proofs.Constraint.Outcome
import Conformance.Proofs.Resolver.Calls
import Conformance.Proofs.Resolver.Faithful
import Conformance.Proofs.Resolver.FirstFailure
import Conformance.Proofs.Resolver.Graph
import Conformance.Proofs.Resolver.Publication
import Conformance.Proofs.Validation.Check
import Conformance.Proofs.Validation.History
import Conformance.Proofs.Validation.Refusal
import Conformance.Proofs.Validation.SameFailure
import Conformance.Proofs.Validation.Transparency
import Conformance.Proofs.Walk.Depth
import Conformance.Proofs.Walk.Entered
import Conformance.Proofs.Walk.Enumeration
import Conformance.Proofs.Walk.Events
import Conformance.Proofs.Walk.FailFast
import Conformance.Proofs.Walk.Faults
import Conformance.Proofs.Walk.Inner
import Conformance.Proofs.Walk.Live
import Conformance.Proofs.Walk.Tasks
import Conformance.Report.Outcome
import Conformance.Report.Path
import Conformance.Report.Record
import Conformance.Report.Violation
import Conformance.Resolver.Basic
import Conformance.Resolver.Build
import Conformance.Rule.Render
import Conformance.Rule.Standard
import Conformance.Rule.Test
import Conformance.Schema.Basic
import Conformance.Schema.Constraints
import Conformance.Schema.Declaration
import Conformance.Schema.Instance
import Conformance.Schema.Kind
import Conformance.Schema.Known
import Conformance.Status.Basic
import Conformance.Status.ErrorTypes
import Conformance.Text.Alphanumeric
import Conformance.Text.Blank
import Conformance.Text.Case
import Conformance.Text.CaseTable
import Conformance.Text.CharSet
import Conformance.Text.Digit
import Conformance.Text.Graphic
import Conformance.Text.Identifier
import Conformance.Text.Normal
import Conformance.Text.NormalTable
import Conformance.Text.Quoted
import Conformance.Text.Search
import Conformance.Text.Utf8
import Conformance.Validation.Config
import Conformance.Validation.Walk
import Conformance.Validation.Workspace
import Conformance.Value.Arithmetic
import Conformance.Value.Attribute
import Conformance.Value.Basic
import Conformance.Value.Bound
import Conformance.Value.Display
import Conformance.Value.Method
import Conformance.Value.Number
import Conformance.Value.Order
import Conformance.Value.Same
import Conformance.Value.Sequence
import Conformance.Value.Sorted
import Conformance.Value.Spec
import Conformance.Value.Substitute
import Conformance.Proofs.Value.Faults
import Conformance.Proofs.Expr.Computation
import Conformance.Proofs.Expr.Library
import Conformance.Proofs.Expr.Language
import Conformance.Proofs.Expr.Calls
import Conformance.Proofs.Schema.Conforming
import Conformance.Proofs.Value.Domain
import Conformance.Proofs.Expr.Inference
import Conformance.Proofs.Rule.Parameters
import Conformance.Proofs.Rule.Suitable
import Conformance.Proofs.Constraint.Typed
import Conformance.Proofs.Constraint.Accepted
import Conformance.Proofs.Walk.Safe
import Conformance.Proofs.Validation.Soundness
import Conformance.Proofs.Expr.Inside
import Conformance.Proofs.Expr.Compilation
import Conformance.Proofs.Expr.Names
import Conformance.Proofs.Expr.Frames
import Conformance.Proofs.Expr.Reading
import Conformance.Proofs.Expr.Bindings
import Conformance.Proofs.Walk.Composition
import Conformance.Proofs.Text.Quoted
import Conformance.Proofs.Report.Rendering
import Conformance.Proofs.Report.Places
import Conformance.Proofs.Walk.Placed
import Conformance.Proofs.Validation.Paths
import Conformance.Proofs.Walk.Skipped
import Conformance.Proofs.Expr.Bare
import Conformance.Proofs.Constraint.Plain
import Conformance.Proofs.Constraint.Relaxed
import Conformance.Proofs.Walk.Relaxed
import Conformance.Proofs.Validation.Relaxation
import Conformance.Proofs.Walk.Independence
import Conformance.Proofs.Constraint.Timeless
import Conformance.Proofs.Validation.Unconstrained
import Conformance.Proofs.Constraint.Origins
import Conformance.Proofs.Validation.Timeless
import Conformance.Proofs.Schema.Reordered
import Conformance.Proofs.Walk.Reordered
import Conformance.Proofs.Validation.Reordering
import Conformance.Proofs.Expr.Atoms
import Conformance.Proofs.Rule.Comparison
import Conformance.Proofs.Constraint.Merging
import Conformance.Proofs.Value.Truncation
import Conformance.Proofs.Constraint.Truncated
import Conformance.Proofs.Text.Search
import Conformance.Proofs.Address.Shapes
import Conformance.Proofs.Address.Lines
import Conformance.Proofs.Address.Identifiers
import Conformance.Proofs.Rule.Formats
import Conformance.Proofs.Program.Cache
import Conformance.Proofs.Resolver.Contents
import Conformance.Proofs.Validation.Sharing
import Conformance.Proofs.Address.Forms
import Conformance.Proofs.Address.Hostname
import Conformance.Proofs.Address.Mailbox
import Conformance.Proofs.Address.HostPort
import Conformance.Proofs.Address.Prefix
import Conformance.Proofs.Address.Disjoint
import Conformance.Proofs.Address.Components
import Conformance.Proofs.Address.Resource
import Conformance.Proofs.Constraint.Distinct
import Conformance.Proofs.Walk.Apart
import Conformance.Proofs.Validation.Unique
import Conformance.Proofs.Constraint.Unwrapped
import Conformance.Proofs.Walk.Unwrapped
import Conformance.Proofs.Validation.Unwrapped
import Conformance.Proofs.Text.Utf8
import Conformance.Proofs.Rule.Patterns
import Conformance.Proofs.Rule.Durations
import Conformance.Proofs.Schema.Groups
import Conformance.Proofs.Validation.Presence
import Conformance.Proofs.Value.Reliable
import Conformance.Proofs.Value.Numbers
import Conformance.Proofs.Schema.Equality
import Conformance.Proofs.Value.Equality
import Conformance.Proofs.Rule.Repetition
