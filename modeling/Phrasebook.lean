import Phrasebook.Attempt
import Phrasebook.Calendar.Clock
import Phrasebook.Calendar.Date
import Phrasebook.Calendar.Iso
import Phrasebook.Compiler.Basic
import Phrasebook.Compiler.Template
import Phrasebook.Compiler.Token
import Phrasebook.Convention.Basic
import Phrasebook.Convention.Data
import Phrasebook.Diagnostic.Basic
import Phrasebook.Diagnostic.Renderer
import Phrasebook.Entries
import Phrasebook.Event
import Phrasebook.Fault
import Phrasebook.Formatter.Config
import Phrasebook.Formatter.Registry
import Phrasebook.Formatting.DatePattern
import Phrasebook.Formatting.NumberPattern
import Phrasebook.Formatting.Standard
import Phrasebook.Guard
import Phrasebook.Json.Basic
import Phrasebook.Json.Reader
import Phrasebook.Json.Writer
import Phrasebook.Locale.Direction
import Phrasebook.Locale.Identifier
import Phrasebook.Locale.Known
import Phrasebook.Locale.Resolution
import Phrasebook.Locale.Tag
import Phrasebook.Number.Decimal
import Phrasebook.Number.Double
import Phrasebook.Number.Numeral
import Phrasebook.Number.Power
import Phrasebook.Number.Shortest
import Phrasebook.Session
import Phrasebook.Summary
import Phrasebook.Target.Expr
import Phrasebook.Target.Name
import Phrasebook.Target.Reserved
import Phrasebook.Template.Basic
import Phrasebook.Template.Loading
import Phrasebook.TemplateError
import Phrasebook.Text.Blank
import Phrasebook.Text.CharSet
import Phrasebook.Text.Digit
import Phrasebook.Text.Letter
import Phrasebook.Text.Printable
import Phrasebook.Text.Quoted
import Phrasebook.Value.Basic
import Phrasebook.Value.Literal
import Phrasebook.Value.Same
import Phrasebook.Value.Text
import Phrasebook.Version
import Phrasebook.Visitor
import Phrasebook.Proofs.Attempt
import Phrasebook.Proofs.Entries
import Phrasebook.Proofs.Formatter.Resolution
import Phrasebook.Proofs.Compiler.Route
import Phrasebook.Proofs.Template.Contents
import Phrasebook.Proofs.Compiler.Following
import Phrasebook.Proofs.Compiler.Tracing
import Phrasebook.Proofs.Compiler.Demands
import Phrasebook.Proofs.Compiler.Acceptance
import Phrasebook.Proofs.Compiler.Tables
import Phrasebook.Proofs.Compiler.Catalog
import Phrasebook.Proofs.Json.Literal
import Phrasebook.Proofs.Json.Numeral
import Phrasebook.Proofs.Json.RoundTrip
import Phrasebook.Proofs.Target.Grammar
import Phrasebook.Proofs.Target.Naming
import Phrasebook.Proofs.Target.Reader
import Phrasebook.Proofs.Target.Evaluation
import Phrasebook.Proofs.Compiler.Preservation
import Phrasebook.Proofs.Contract
import Phrasebook.Proofs.Formatter.Memoization
import Phrasebook.Proofs.Compiler.Conduct
import Phrasebook.Proofs.Session.Invariant
import Phrasebook.Proofs.Compiler.Blame
import Phrasebook.Proofs.Session.History
import Phrasebook.Proofs.Compiler.Injectivity
import Phrasebook.Proofs.Visitor.Tour
import Phrasebook.Proofs.Target.Reads
import Phrasebook.Proofs.Compiler.Pieces
import Phrasebook.Proofs.Compiler.Reads
import Phrasebook.Proofs.Summary.Collection
import Phrasebook.Proofs.Summary.Depth
import Phrasebook.Proofs.Summary.Agreement
import Phrasebook.Proofs.Template.Fields
import Phrasebook.Proofs.Template.Document
import Phrasebook.Proofs.Template.Grammar
import Phrasebook.Proofs.Compiler.Scoping
import Phrasebook.Proofs.Formatter.Ledger
import Phrasebook.Proofs.Compiler.Marks
import Phrasebook.Proofs.Template.Mistyped
import Phrasebook.Proofs.Visitor.Calls
import Phrasebook.Proofs.Template.Sources
import Phrasebook.Proofs.Locale.Tags
import Phrasebook.Proofs.Compiler.Rules
import Phrasebook.Proofs.Target.LineTerminators
import Phrasebook.Proofs.Compiler.LineTerminators
import Phrasebook.Proofs.Compiler.Origins
import Phrasebook.Proofs.Diagnostic.Record
import Phrasebook.Proofs.Diagnostic.LineLengths
import Phrasebook.Proofs.Diagnostic.LineBreaks
import Phrasebook.Proofs.Locale.Direction
import Phrasebook.Proofs.Value.Literal
import Phrasebook.Proofs.Target.PropertyNames
