import Phrasebook.Build
import Phrasebook.Caller.Expression
import Phrasebook.Caller.Literal
import Phrasebook.Caller.Reference
import Phrasebook.Caller.Refusal
import Phrasebook.Caller.Scan
import Phrasebook.Caller.Statement
import Phrasebook.Caller.Token
import Phrasebook.Caller.Tree
import Phrasebook.Catalog.Basic
import Phrasebook.Catalog.Compile
import Phrasebook.Catalog.Message
import Phrasebook.Code.Line
import Phrasebook.Code.Outline
import Phrasebook.Config
import Phrasebook.Diagnostic.Basic
import Phrasebook.Diagnostic.Layout
import Phrasebook.Dispatch
import Phrasebook.Error
import Phrasebook.Fault
import Phrasebook.Format.Pieces
import Phrasebook.Format.Spec
import Phrasebook.Generated.Basic
import Phrasebook.Generated.Checked
import Phrasebook.Generated.Print
import Phrasebook.Generated.Run
import Phrasebook.Invalid
import Phrasebook.Journal.Event
import Phrasebook.Journal.Record
import Phrasebook.Key
import Phrasebook.Locale.Basic
import Phrasebook.Locale.Codec
import Phrasebook.Locale.DisplayName
import Phrasebook.Locale.Set
import Phrasebook.Number.Binary64
import Phrasebook.Number.Fixed
import Phrasebook.Number.Integer
import Phrasebook.Number.Power
import Phrasebook.Number.Rounding
import Phrasebook.Number.Shortest
import Phrasebook.Release
import Phrasebook.Section.Basic
import Phrasebook.Section.Read
import Phrasebook.Sorting
import Phrasebook.Source
import Phrasebook.Store.Basic
import Phrasebook.Store.Path
import Phrasebook.Template.Basic
import Phrasebook.Template.Parse
import Phrasebook.Text.Alphanumeric
import Phrasebook.Text.Blank
import Phrasebook.Text.CaseMapping
import Phrasebook.Text.CodePointSet
import Phrasebook.Text.Digit
import Phrasebook.Text.IdentifierChar
import Phrasebook.Text.LetterCase
import Phrasebook.Text.Line
import Phrasebook.Text.Literal
import Phrasebook.Text.Order
import Phrasebook.Text.Printable
import Phrasebook.Text.Quoted
import Phrasebook.Text.Split
import Phrasebook.Text.Utf8
import Phrasebook.Value
import Phrasebook.Proofs.Dispatch
import Phrasebook.Proofs.Outcome
import Phrasebook.Proofs.Template
import Phrasebook.Proofs.Compilation.Step
import Phrasebook.Proofs.Compilation.Acceptance
import Phrasebook.Proofs.Compilation.Independence
import Phrasebook.Proofs.Generated.Reading
import Phrasebook.Proofs.Generated.Refinement
import Phrasebook.Proofs.Text.Case
import Phrasebook.Proofs.Text.Stable
import Phrasebook.Proofs.Locale.Tag
import Phrasebook.Proofs.Locale.Codec
import Phrasebook.Proofs.Compilation.Coverage
import Phrasebook.Proofs.Generated.Method
import Phrasebook.Proofs.Key
import Phrasebook.Proofs.Generated.LangClass
import Phrasebook.Proofs.Generated.Codec
import Phrasebook.Proofs.Text.Utf8
import Phrasebook.Proofs.Text.Line
import Phrasebook.Proofs.Section.Reading
import Phrasebook.Proofs.Source
import Phrasebook.Proofs.Compilation.Failure
import Phrasebook.Proofs.Generated.Writing
import Phrasebook.Proofs.Text.Unbroken
import Phrasebook.Proofs.Code.Line
import Phrasebook.Proofs.Generated.Neatness
import Phrasebook.Proofs.Generated.Scope
import Phrasebook.Proofs.Build
import Phrasebook.Proofs.Section.Rendering
import Phrasebook.Proofs.Template.Directive
import Phrasebook.Proofs.Template.Scan
import Phrasebook.Proofs.Template.Segmentation
import Phrasebook.Proofs.Template.Formatting
import Phrasebook.Proofs.Text.Pattern
import Phrasebook.Proofs.Section.Grammar
import Phrasebook.Proofs.Section.Declared
import Phrasebook.Proofs.Format.Spec
import Phrasebook.Proofs.Format.Percent
import Phrasebook.Proofs.Template.Percent
import Phrasebook.Proofs.Section.Merging
import Phrasebook.Proofs.Compilation.Lookup
import Phrasebook.Proofs.Key.Words
import Phrasebook.Proofs.Key.Snake
import Phrasebook.Proofs.Key.Namespace
import Phrasebook.Proofs.Dispatch.Arms
import Phrasebook.Proofs.Locale.Set
import Phrasebook.Proofs.Locale.Grammar
import Phrasebook.Proofs.Caller.Parts
import Phrasebook.Proofs.Caller.Reference
import Phrasebook.Proofs.Diagnostic.Json
import Phrasebook.Proofs.Key.Boundaries
import Phrasebook.Proofs.Diagnostic.Record
import Phrasebook.Proofs.Generated.Constructors
import Phrasebook.Proofs.Generated.Members
import Phrasebook.Proofs.Caller.Lines
import Phrasebook.Proofs.Caller.Checking
import Phrasebook.Proofs.Caller.LongString
import Phrasebook.Proofs.Generated.Docstring
