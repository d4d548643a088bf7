import ConfigReference.Accessor
import ConfigReference.Argument
import ConfigReference.Command.Arguments
import ConfigReference.Command.Drawing
import ConfigReference.Command.Footprint
import ConfigReference.Command.Invocation
import ConfigReference.Command.Report
import ConfigReference.Command.Run
import ConfigReference.Console
import ConfigReference.Console.CellWidth
import ConfigReference.Console.Emoji
import ConfigReference.Console.EmojiTable
import ConfigReference.Console.Grapheme
import ConfigReference.Console.Layout
import ConfigReference.Console.Markup
import ConfigReference.Console.Style
import ConfigReference.Console.StyledText
import ConfigReference.Diagnostic
import ConfigReference.DiagnosticLog
import ConfigReference.Document
import ConfigReference.Entry
import ConfigReference.Environment
import ConfigReference.EnvironmentFile
import ConfigReference.Event
import ConfigReference.Facts
import ConfigReference.Failure
import ConfigReference.File.Action
import ConfigReference.File.AtomicWrite
import ConfigReference.File.Fault
import ConfigReference.File.Path
import ConfigReference.File.Tree
import ConfigReference.Generation
import ConfigReference.Json.Parser
import ConfigReference.Json.Printer
import ConfigReference.Json.Problem
import ConfigReference.Json.Reading
import ConfigReference.Json.Value
import ConfigReference.Literal.Expression
import ConfigReference.Literal.Fault
import ConfigReference.Literal.Field
import ConfigReference.Literal.Grammar
import ConfigReference.Literal.Numeral
import ConfigReference.Literal.Parser
import ConfigReference.Literal.Quotation
import ConfigReference.Literal.Reading
import ConfigReference.Literal.Token
import ConfigReference.Main
import ConfigReference.Number.Binary64
import ConfigReference.Scan
import ConfigReference.Schema
import ConfigReference.Session
import ConfigReference.Settings
import ConfigReference.Source
import ConfigReference.Statement
import ConfigReference.Summary
import ConfigReference.Table
import ConfigReference.Text.Blank
import ConfigReference.Text.CaseTable
import ConfigReference.Text.CharacterName
import ConfigReference.Text.CharacterNameTable
import ConfigReference.Text.Digit
import ConfigReference.Text.HiddenTable
import ConfigReference.Text.LowerCase
import ConfigReference.Text.Name
import ConfigReference.Text.NameTable
import ConfigReference.Text.Quoted
import ConfigReference.Text.Split
import ConfigReference.Text.Utf8
import ConfigReference.Variant
import ConfigReference.VariantFile
import ConfigReference.Proofs.Table
import ConfigReference.Proofs.Text
import ConfigReference.Proofs.ReadGrammar
import ConfigReference.Proofs.ScanStep
import ConfigReference.Proofs.ReadTypes
import ConfigReference.Proofs.ScanMeaning
import ConfigReference.Proofs.PrintedSource
import ConfigReference.Proofs.ScanRecord
import ConfigReference.Proofs.Aggregation
import ConfigReference.Proofs.JoinedText
import ConfigReference.Proofs.DocumentOrder
import ConfigReference.Proofs.FileOrder
import ConfigReference.Proofs.JsonToken
import ConfigReference.Proofs.JsonSpelling
import ConfigReference.Proofs.SchemaDump
import ConfigReference.Proofs.FileTree
import ConfigReference.Proofs.Outcome
import ConfigReference.Proofs.AtomicWrite
import ConfigReference.Proofs.Generation
import ConfigReference.Proofs.CommandEffects
import ConfigReference.Proofs.SeparateOutputs
import ConfigReference.Proofs.Preview
import ConfigReference.Proofs.OneLine
import ConfigReference.Proofs.DocumentReading
import ConfigReference.Proofs.StringDefault
import ConfigReference.Proofs.LastArgument
import ConfigReference.Proofs.ListDefault
import ConfigReference.Proofs.HexDefault
import ConfigReference.Proofs.StableOrder
import ConfigReference.Proofs.RunSummary
import ConfigReference.Proofs.Growth
import ConfigReference.Proofs.RuleOrder
import ConfigReference.Proofs.Utf8
import ConfigReference.Proofs.BracketEscapes
import ConfigReference.Proofs.LineEnds
import ConfigReference.Proofs.ReceiverSpellings
import ConfigReference.Proofs.VariantLoading
import ConfigReference.Proofs.AllOrNothing
import ConfigReference.Proofs.LogLines
