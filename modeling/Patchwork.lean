import Patchwork.Diff.Context
import Patchwork.Diff.Words
import Patchwork.Hook.Basic
import Patchwork.Hook.Install
import Patchwork.Hook.Wrap
import Patchwork.Json.Basic
import Patchwork.Json.Reader
import Patchwork.Log.Calendar
import Patchwork.Log.Layout
import Patchwork.Log.Logger
import Patchwork.Log.Once
import Patchwork.Log.Part
import Patchwork.Log.Record
import Patchwork.Log.Reference
import Patchwork.Log.Setup
import Patchwork.Machine
import Patchwork.Number.Binary64
import Patchwork.Number.Complex
import Patchwork.Number.Division
import Patchwork.Number.FloatText
import Patchwork.Number.Integer
import Patchwork.Operation
import Patchwork.Patch.Apply
import Patchwork.Patch.Attempt
import Patchwork.Patch.Basic
import Patchwork.Patch.Drain
import Patchwork.Patch.Recompile
import Patchwork.Patch.Rewrite
import Patchwork.Pattern.Basic
import Patchwork.Pattern.Bracket
import Patchwork.Pattern.CharSet
import Patchwork.Pattern.Escape
import Patchwork.Pattern.Fault
import Patchwork.Pattern.Flags
import Patchwork.Pattern.Forgiveness
import Patchwork.Pattern.Match
import Patchwork.Pattern.Parser
import Patchwork.Pattern.Place
import Patchwork.Pattern.Plain.Parser
import Patchwork.Pattern.Plain.Reader
import Patchwork.Pattern.Property
import Patchwork.Pattern.Reader
import Patchwork.Pattern.Search
import Patchwork.Pattern.Syntax
import Patchwork.Pattern.Template
import Patchwork.Proofs.Absence
import Patchwork.Proofs.Agreement
import Patchwork.Proofs.Alignment
import Patchwork.Proofs.Answers
import Patchwork.Proofs.Assigning
import Patchwork.Proofs.Blocks
import Patchwork.Proofs.Clearing
import Patchwork.Proofs.Commitment
import Patchwork.Proofs.CommonRuns
import Patchwork.Proofs.Containment
import Patchwork.Proofs.Described
import Patchwork.Proofs.Diagnostics
import Patchwork.Proofs.Drained
import Patchwork.Proofs.Draining
import Patchwork.Proofs.Fallback
import Patchwork.Proofs.FirstReads
import Patchwork.Proofs.Folds
import Patchwork.Proofs.Forms
import Patchwork.Proofs.Group
import Patchwork.Proofs.Growth
import Patchwork.Proofs.Handover
import Patchwork.Proofs.HookStacks
import Patchwork.Proofs.HostErrors
import Patchwork.Proofs.Indents
import Patchwork.Proofs.Interception
import Patchwork.Proofs.Introspection
import Patchwork.Proofs.Invisibility
import Patchwork.Proofs.Isolation
import Patchwork.Proofs.Joints
import Patchwork.Proofs.KeyForms
import Patchwork.Proofs.Keys
import Patchwork.Proofs.Labels
import Patchwork.Proofs.Lexemes
import Patchwork.Proofs.Likeness
import Patchwork.Proofs.LiteralPatterns
import Patchwork.Proofs.Lookups
import Patchwork.Proofs.MatchOrder
import Patchwork.Proofs.Matching
import Patchwork.Proofs.Nesting
import Patchwork.Proofs.Orders
import Patchwork.Proofs.Originals
import Patchwork.Proofs.Pending
import Patchwork.Proofs.Placement
import Patchwork.Proofs.PlainRules
import Patchwork.Proofs.PlainTexts
import Patchwork.Proofs.PlainWorlds
import Patchwork.Proofs.Preservation
import Patchwork.Proofs.Provenance
import Patchwork.Proofs.PureRules
import Patchwork.Proofs.Readers
import Patchwork.Proofs.Reading
import Patchwork.Proofs.Regions
import Patchwork.Proofs.Remainder
import Patchwork.Proofs.Renewal
import Patchwork.Proofs.Repeats
import Patchwork.Proofs.Retention
import Patchwork.Proofs.ScriptLikeness
import Patchwork.Proofs.Seams
import Patchwork.Proofs.Separation
import Patchwork.Proofs.Settling
import Patchwork.Proofs.Shorthand
import Patchwork.Proofs.SingleUse
import Patchwork.Proofs.Sparing
import Patchwork.Proofs.StartCalls
import Patchwork.Proofs.Startup
import Patchwork.Proofs.TableRuns
import Patchwork.Proofs.Transparency
import Patchwork.Proofs.Trials
import Patchwork.Proofs.Twins
import Patchwork.Proofs.Unplaced
import Patchwork.Proofs.Uses
import Patchwork.Proofs.Verbatim
import Patchwork.Proofs.Views
import Patchwork.Proofs.WordDiffs
import Patchwork.Proofs.Words
import Patchwork.Registry.Basic
import Patchwork.Registry.Dispatch
import Patchwork.Registry.Exports
import Patchwork.Registry.History
import Patchwork.Scenario.Answer
import Patchwork.Scenario.Callback
import Patchwork.Scenario.Command
import Patchwork.Scenario.Factory
import Patchwork.Scenario.Host
import Patchwork.Scenario.Logging
import Patchwork.Scenario.Report
import Patchwork.Scenario.Spec
import Patchwork.Scenario.Step
import Patchwork.Scenario.Task
import Patchwork.Scenario.Text
import Patchwork.Script.Argument
import Patchwork.Script.Block
import Patchwork.Script.Builtin
import Patchwork.Script.Check
import Patchwork.Script.ClassForm
import Patchwork.Script.Construct
import Patchwork.Script.Container
import Patchwork.Script.Eval
import Patchwork.Script.Exec
import Patchwork.Script.Form
import Patchwork.Script.Lexeme
import Patchwork.Script.Literal
import Patchwork.Script.Operate
import Patchwork.Script.Parser
import Patchwork.Script.Scan
import Patchwork.Script.Scope
import Patchwork.Script.Syntax
import Patchwork.Script.TextMethod
import Patchwork.Script.Word
import Patchwork.Settings
import Patchwork.Source.Lookup
import Patchwork.Source.Normalize
import Patchwork.Source.Policy
import Patchwork.Store.Attribute
import Patchwork.Store.Behavior
import Patchwork.Store.Beside
import Patchwork.Store.Calling
import Patchwork.Store.Cause
import Patchwork.Store.Describe
import Patchwork.Store.Object
import Patchwork.Store.Percent
import Patchwork.Store.Quiet
import Patchwork.Store.Snapshot
import Patchwork.Store.Specification
import Patchwork.Store.Within
import Patchwork.Store.World
import Patchwork.Table.Access
import Patchwork.Table.Basic
import Patchwork.Text.BlockTable
import Patchwork.Text.Case
import Patchwork.Text.CaseTable
import Patchwork.Text.Category
import Patchwork.Text.CategoryTable
import Patchwork.Text.Class
import Patchwork.Text.Form
import Patchwork.Text.Grapheme
import Patchwork.Text.LetterNameTable
import Patchwork.Text.Lines
import Patchwork.Text.Name
import Patchwork.Text.Normal
import Patchwork.Text.NormalTable
import Patchwork.Text.Property
import Patchwork.Text.PropertyTable
import Patchwork.Text.Quoted
import Patchwork.Text.Ranges
import Patchwork.Text.ScriptTable
import Patchwork.Text.Search
import Patchwork.Text.Slice
import Patchwork.Text.SymbolNameTable
import Patchwork.Text.WordBreak
import Patchwork.Value.Basic
import Patchwork.Version.Basic
import Patchwork.Version.Parser
import Patchwork.Version.Specifier
