import CopyFormat.CommandLine.Args
import CopyFormat.CommandLine.Help
import CopyFormat.CommandLine.Run
import CopyFormat.CustomFormat
import CopyFormat.Date.Calendar
import CopyFormat.Date.Format
import CopyFormat.Decimal.Binary
import CopyFormat.Decimal.Layout
import CopyFormat.Decimal.Reader
import CopyFormat.Decimal.Shortest
import CopyFormat.Formatting
import CopyFormat.Idna.Domain
import CopyFormat.Idna.Label
import CopyFormat.Idna.Mapping
import CopyFormat.Idna.Punycode
import CopyFormat.Json.Decode
import CopyFormat.Json.Number
import CopyFormat.Json.Printer
import CopyFormat.Json.Reader
import CopyFormat.Json.Value
import CopyFormat.Main
import CopyFormat.Markup
import CopyFormat.Page
import CopyFormat.PageValues
import CopyFormat.Pattern.Brackets
import CopyFormat.Pattern.Compiled
import CopyFormat.Pattern.Escape
import CopyFormat.Pattern.Expr
import CopyFormat.Pattern.Fault
import CopyFormat.Pattern.Meaning
import CopyFormat.Pattern.Program
import CopyFormat.Pattern.Reader
import CopyFormat.Pattern.Search
import CopyFormat.Pattern.Syntax
import CopyFormat.Preset.Basic
import CopyFormat.Preset.Builtin
import CopyFormat.Preset.Registry
import CopyFormat.Proofs.CommandLine.Arguments
import CopyFormat.Proofs.CommandLine.Formats
import CopyFormat.Proofs.CommandLine.Frame
import CopyFormat.Proofs.CommandLine.Runs
import CopyFormat.Proofs.Json.Fields
import CopyFormat.Proofs.Json.Normal
import CopyFormat.Proofs.Json.Reread
import CopyFormat.Proofs.Json.RoundTrip
import CopyFormat.Proofs.Json.Token
import CopyFormat.Proofs.Markup.Anchor
import CopyFormat.Proofs.Markup.LinkText
import CopyFormat.Proofs.Outcome
import CopyFormat.Proofs.Pattern.Escape
import CopyFormat.Proofs.Pattern.Fault
import CopyFormat.Proofs.Pattern.Literal
import CopyFormat.Proofs.Pattern.Search
import CopyFormat.Proofs.Preset.Admission
import CopyFormat.Proofs.Preset.Changes
import CopyFormat.Proofs.Preset.InStep
import CopyFormat.Proofs.Preset.Order
import CopyFormat.Proofs.Preset.Registry
import CopyFormat.Proofs.Preset.Removal
import CopyFormat.Proofs.Preset.Toggle
import CopyFormat.Proofs.Script.Agreement
import CopyFormat.Proofs.Script.Arithmetic
import CopyFormat.Proofs.Script.Balanced
import CopyFormat.Proofs.Script.Branches
import CopyFormat.Proofs.Script.Bytes
import CopyFormat.Proofs.Script.Confinement
import CopyFormat.Proofs.Script.Delimiters
import CopyFormat.Proofs.Script.Depth
import CopyFormat.Proofs.Script.Expression
import CopyFormat.Proofs.Script.Grammar
import CopyFormat.Proofs.Script.Guard
import CopyFormat.Proofs.Script.Inclusion
import CopyFormat.Proofs.Script.Operands
import CopyFormat.Proofs.Script.Parentheses
import CopyFormat.Proofs.Script.Parts
import CopyFormat.Proofs.Script.Quotes
import CopyFormat.Proofs.Script.Recognition
import CopyFormat.Proofs.Script.Refusal
import CopyFormat.Proofs.Script.Scan
import CopyFormat.Proofs.Script.Separators
import CopyFormat.Proofs.Script.Shapes
import CopyFormat.Proofs.Script.Stacks
import CopyFormat.Proofs.Script.TopLevel
import CopyFormat.Proofs.Script.Visibility
import CopyFormat.Proofs.Settings.File
import CopyFormat.Proofs.Settings.Form
import CopyFormat.Proofs.Settings.Load
import CopyFormat.Proofs.Settings.Persistence
import CopyFormat.Proofs.Settings.RoundTrip
import CopyFormat.Proofs.Settings.Store
import CopyFormat.Proofs.Substitution.Apply
import CopyFormat.Proofs.Substitution.Classification
import CopyFormat.Proofs.Substitution.Literal
import CopyFormat.Proofs.Substitution.Rejection
import CopyFormat.Proofs.Substitution.Replacement
import CopyFormat.Proofs.Substitution.Rule
import CopyFormat.Proofs.Template
import CopyFormat.Proofs.Template.Expansion
import CopyFormat.Proofs.Template.Rerun
import CopyFormat.Proofs.Text.Basic
import CopyFormat.Proofs.Text.Character
import CopyFormat.Proofs.Text.Excerpt
import CopyFormat.Proofs.Text.Offset
import CopyFormat.Proofs.Text.Rewrite
import CopyFormat.Proofs.Text.Split
import CopyFormat.Proofs.Text.Trim
import CopyFormat.Proofs.Unicode.Word
import CopyFormat.Script.Arithmetic
import CopyFormat.Script.Context
import CopyFormat.Script.Error
import CopyFormat.Script.Eval
import CopyFormat.Script.Guard
import CopyFormat.Script.Limits
import CopyFormat.Script.Operation
import CopyFormat.Script.Race
import CopyFormat.Script.Scan
import CopyFormat.Script.Shape
import CopyFormat.Script.Value
import CopyFormat.Settings.Basic
import CopyFormat.Settings.Load
import CopyFormat.Settings.Path
import CopyFormat.Settings.Store
import CopyFormat.Substitution.Apply
import CopyFormat.Substitution.Replacement
import CopyFormat.Substitution.Rule
import CopyFormat.Template
import CopyFormat.Text.Basic
import CopyFormat.Text.Blank
import CopyFormat.Text.Case
import CopyFormat.Text.Offset
import CopyFormat.Unicode.Age
import CopyFormat.Unicode.BidiClass
import CopyFormat.Unicode.Binary
import CopyFormat.Unicode.CaseFolding
import CopyFormat.Unicode.CaseMapping
import CopyFormat.Unicode.CharSet
import CopyFormat.Unicode.CombiningClass
import CopyFormat.Unicode.Composition
import CopyFormat.Unicode.GeneralCategory
import CopyFormat.Unicode.JoiningType
import CopyFormat.Unicode.Normalization
import CopyFormat.Unicode.Property
import CopyFormat.Unicode.Script
import CopyFormat.Unicode.Segmentation
import CopyFormat.Unicode.Word
import CopyFormat.Url.Host
import CopyFormat.Url.Ipv4
import CopyFormat.Url.Ipv6
import CopyFormat.Url.Location
import CopyFormat.Url.Path
import CopyFormat.Url.Percent
