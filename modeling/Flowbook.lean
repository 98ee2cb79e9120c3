import Flowbook.Text.Blank
import Flowbook.Text.Pieces
import Flowbook.Text.Quoted
import Flowbook.Text.Hexadecimal
import Flowbook.Character.CharSet
import Flowbook.Character.Table
import Flowbook.Character.Category
import Flowbook.Character.Script
import Flowbook.Character.Age
import Flowbook.Character.Trait
import Flowbook.Character.Break
import Flowbook.Character.Folding
import Flowbook.Character.Property
import Flowbook.Text.Letter
import Flowbook.Decimal.Shortest
import Flowbook.Decimal.Layout
import Flowbook.Decimal.Reading
import Flowbook.Formula.Fault
import Flowbook.Formula.Token
import Flowbook.Formula.Expr
import Flowbook.Formula.Outline
import Flowbook.Formula.Parsing
import Flowbook.Formula.Simplification
import Flowbook.Formula.Function
import Flowbook.Formula.DateFormat
import Flowbook.Formula.Column
import Flowbook.Pattern.Engine
import Flowbook.Pattern.Fault
import Flowbook.Pattern.Cursor
import Flowbook.Pattern.Tree
import Flowbook.Pattern.Escape
import Flowbook.Pattern.Class
import Flowbook.Pattern.Reading
import Flowbook.Pattern.Depth
import Flowbook.Pattern.Encoding
import Flowbook.Pattern.Shape
import Flowbook.Pattern.Meaning
import Flowbook.Pattern.Sharing
import Flowbook.Pattern.Program
import Flowbook.Pattern.Check
import Flowbook.Json.Value
import Flowbook.Json.Reading
import Flowbook.Json.Writing
import Flowbook.Json.Record
import Flowbook.Workflow.Outlet
import Flowbook.Workflow.ToolKind
import Flowbook.Workflow.Properties
import Flowbook.Workflow.Basic
import Flowbook.Workflow.Document
import Flowbook.Workflow.Dump
import Flowbook.Configuration.Fault
import Flowbook.Configuration.Aggregation
import Flowbook.Configuration.Basic
import Flowbook.Configuration.Reading
import Flowbook.Plan.Fault
import Flowbook.Plan.Links
import Flowbook.Plan.Cycle
import Flowbook.Plan.Order
import Flowbook.Plan.Section
import Flowbook.Plan.Basic
import Flowbook.Plan.Build
import Flowbook.Notebook.Cell
import Flowbook.Notebook.Settings
import Flowbook.Notebook.Handle
import Flowbook.Notebook.Emission
import Flowbook.Notebook.Emitter.Transfer
import Flowbook.Notebook.Emitter.Rows
import Flowbook.Notebook.Emitter.Columns
import Flowbook.Notebook.Emitter.Combination
import Flowbook.Notebook.Registry
import Flowbook.Notebook.Opening
import Flowbook.Notebook.ToolCell
import Flowbook.Notebook.Generation
import Flowbook.Command
import Flowbook.Main
import Flowbook.Proofs.Plan.Links
import Flowbook.Proofs.Plan.Order
import Flowbook.Proofs.Plan.Kahn
import Flowbook.Proofs.Plan.Section
import Flowbook.Proofs.Plan.Build
import Flowbook.Proofs.Plan.Emission
import Flowbook.Proofs.Plan.Cycle
import Flowbook.Proofs.Plan.Tarjan
import Flowbook.Proofs.Plan.CycleSearch
import Flowbook.Proofs.Notebook.Generation
import Flowbook.Proofs.Decimal.Numeral
import Flowbook.Proofs.Decimal.Layout
import Flowbook.Proofs.Decimal.ReadBack
import Flowbook.Proofs.Decimal.Positive
import Flowbook.Proofs.Decimal.Defined
import Flowbook.Proofs.Formula.Grammar
import Flowbook.Proofs.Formula.Cursor
import Flowbook.Proofs.Formula.Soundness
import Flowbook.Proofs.Formula.Completeness
import Flowbook.Proofs.Formula.Parse
import Flowbook.Proofs.Formula.Lexing
import Flowbook.Proofs.Formula.Atom
import Flowbook.Proofs.Formula.Printing
import Flowbook.Proofs.Formula.Faithful
import Flowbook.Proofs.Formula.RoundTrip
import Flowbook.Proofs.Formula.Meaning
import Flowbook.Proofs.Formula.Primary
import Flowbook.Proofs.Formula.Column
import Flowbook.Proofs.Notebook.Binding
import Flowbook.Proofs.Text.Line
import Flowbook.Proofs.Notebook.Entry
import Flowbook.Proofs.Notebook.Writing
import Flowbook.Proofs.Notebook.Definition
import Flowbook.Proofs.Plan.Forcing
import Flowbook.Proofs.Plan.Agreement
import Flowbook.Proofs.Plan.Membership
import Flowbook.Proofs.Plan.Acceptance
import Flowbook.Proofs.Plan.Rearrangement
import Flowbook.Proofs.Notebook.Rearrangement
import Flowbook.Proofs.Formula.Height
import Flowbook.Proofs.Formula.Tower
import Flowbook.Proofs.Formula.Occurrence
import Flowbook.Proofs.Formula.Notes
import Flowbook.Proofs.Notebook.Edit
import Flowbook.Proofs.Notebook.CellText
import Flowbook.Proofs.Notebook.Confinement
import Flowbook.Proofs.Notebook.Boundary
import Flowbook.Proofs.Notebook.Review
import Flowbook.Proofs.Json.ReadBack
import Flowbook.Proofs.Workflow.Document
import Flowbook.Proofs.Plan.Least
import Flowbook.Proofs.Plan.Sectioning
import Flowbook.Proofs.Formula.Normal
import Flowbook.Proofs.Formula.Unambiguous
import Flowbook.Proofs.Configuration.Aggregation
import Flowbook.Proofs.Formula.DateFormat
import Flowbook.Proofs.Text.Recased
import Flowbook.Proofs.Formula.Lowered
import Flowbook.Proofs.Formula.Alike
import Flowbook.Proofs.Formula.Spelling
import Flowbook.Proofs.Formula.Layout
import Flowbook.Proofs.Formula.Casing
import Flowbook.Proofs.Formula.Procedure
import Flowbook.Proofs.Formula.Termination
import Flowbook.Proofs.Formula.Siblings
import Flowbook.Proofs.Notebook.Replacement
import Flowbook.Proofs.Notebook.Variable
