import RecordEditing.Clipboard.Basic
import RecordEditing.Clipboard.Item
import RecordEditing.Clipboard.Session
import RecordEditing.Command.Arguments
import RecordEditing.Command.Basic
import RecordEditing.Command.Lines
import RecordEditing.Command.Load
import RecordEditing.Command.Report
import RecordEditing.Container.Basic
import RecordEditing.Container.Config
import RecordEditing.Container.Descendants
import RecordEditing.Container.Lookup
import RecordEditing.Container.Outline
import RecordEditing.Container.Paste
import RecordEditing.Entries
import RecordEditing.Filter.Builder
import RecordEditing.Filter.Operator
import RecordEditing.Filter.Rule
import RecordEditing.Filter.Text
import RecordEditing.Json.Basic
import RecordEditing.Json.Document
import RecordEditing.Json.Fields
import RecordEditing.Json.Number
import RecordEditing.Json.Parser
import RecordEditing.Json.Printer
import RecordEditing.Main
import RecordEditing.Named
import RecordEditing.Numeric.Binary64
import RecordEditing.Numeric.Reading
import RecordEditing.Numeric.Shortest
import RecordEditing.Palette.Basic
import RecordEditing.Palette.Compile
import RecordEditing.Palette.Condition
import RecordEditing.Palette.ConditionText
import RecordEditing.Palette.Legend
import RecordEditing.Palette.Selector
import RecordEditing.Palette.Source
import RecordEditing.Proofs.Container.Descendants
import RecordEditing.Proofs.Container.FoundParent
import RecordEditing.Proofs.Paste.Circular
import RecordEditing.Proofs.Paste.Failure
import RecordEditing.Proofs.Paste.Phases
import RecordEditing.Proofs.Record.Address
import RecordEditing.Proofs.Relation.Inverse
import RecordEditing.Proofs.Relation.Template
import RecordEditing.Proofs.Relation.Valid
import RecordEditing.Proofs.Tree.Chain
import RecordEditing.Proofs.Tree.Container
import RecordEditing.Proofs.Tree.Nodes
import RecordEditing.Proofs.Tree.Paste
import RecordEditing.Proofs.Value.Integer
import RecordEditing.Proofs.Value.Loose
import RecordEditing.Record.Basic
import RecordEditing.Record.Error
import RecordEditing.Record.Id
import RecordEditing.Record.Input
import RecordEditing.Record.RefSet
import RecordEditing.Relation.Definition
import RecordEditing.Relation.Error
import RecordEditing.Relation.Instance
import RecordEditing.Relation.ParentChild
import RecordEditing.Relation.Root
import RecordEditing.Relation.Setter
import RecordEditing.Relation.Template
import RecordEditing.Store.Basic
import RecordEditing.Store.Insertion
import RecordEditing.Store.Table
import RecordEditing.Text.Blank
import RecordEditing.Text.CaseTable
import RecordEditing.Text.LowerCase
import RecordEditing.Text.Quoted
import RecordEditing.Text.Ranges
import RecordEditing.Text.Split
import RecordEditing.Text.VisibleTable
import RecordEditing.Value.Pattern
import RecordEditing.Value.Truth
import RecordEditing.Proofs.Container.PrintedTree
import RecordEditing.Proofs.Container.Selection
import RecordEditing.Proofs.Relation.TrueParent
import RecordEditing.Proofs.Container.BreadthFirst
import RecordEditing.Proofs.Palette.Merge
import RecordEditing.Proofs.Palette.Expansion
import RecordEditing.Proofs.Palette.Score
import RecordEditing.Proofs.Json.Literal
import RecordEditing.Proofs.Record.Written
import RecordEditing.Proofs.Clipboard.Runs
import RecordEditing.Proofs.Palette.Absorption
import RecordEditing.Proofs.Value.Rounding
import RecordEditing.Proofs.Palette.Recompile
import RecordEditing.Proofs.Relation.IntegerLink
import RecordEditing.Proofs.Palette.ExactScore
import RecordEditing.Proofs.Palette.Choice
import RecordEditing.Proofs.Palette.Commit
import RecordEditing.Proofs.Palette.Specific
import RecordEditing.Proofs.Record.ReadBack
import RecordEditing.Proofs.Json.Restores
import RecordEditing.Proofs.Clipboard.Saved
import RecordEditing.Proofs.History
import RecordEditing.Proofs.Clipboard.Keys
import RecordEditing.Proofs.Store.FiniteMap
import RecordEditing.Proofs.Relation.Writing
import RecordEditing.Proofs.Relation.Leaves
import RecordEditing.Proofs.Relation.Filled
import RecordEditing.Proofs.Relation.Faults
import RecordEditing.Proofs.Relation.Atomic
import RecordEditing.Proofs.Relation.SharedParent
import RecordEditing.Proofs.Paste.Override
import RecordEditing.Proofs.Container.Siblings
import RecordEditing.Proofs.Json.Fields
import RecordEditing.Proofs.Palette.ReadBack
import RecordEditing.Proofs.Palette.Growth
import RecordEditing.Proofs.Palette.Placement
import RecordEditing.Proofs.Relation.ReadBack
import RecordEditing.Proofs.Container.ReadBack
import RecordEditing.Proofs.Relation.Projection
import RecordEditing.Proofs.Palette.Owner
import RecordEditing.Proofs.Text.Marking
import RecordEditing.Proofs.Palette.SelectorOrder
import RecordEditing.Proofs.Store.StableSort
import RecordEditing.Proofs.Value.Order
import RecordEditing.Proofs.Store.Fetching
import RecordEditing.Proofs.Value.Truth
import RecordEditing.Proofs.Value.Trichotomy
import RecordEditing.Proofs.Value.Pattern
import RecordEditing.Proofs.Text.Pieces
import RecordEditing.Proofs.Palette.SelectorParts
