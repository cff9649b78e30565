import Bracework.Assembly.Build
import Bracework.Assembly.Stack
import Bracework.Breach
import Bracework.Characters
import Bracework.Checks.Basic
import Bracework.Checks.Document
import Bracework.Checks.Expression
import Bracework.Checks.Template
import Bracework.CommandLine.Arguments
import Bracework.CommandLine.Run
import Bracework.Decimal.Binary64
import Bracework.Decimal.Shortest
import Bracework.Diagnostic.Basic
import Bracework.Diagnostic.Problem
import Bracework.Document
import Bracework.Expression.Arena
import Bracework.Expression.Basic
import Bracework.Expression.Fault
import Bracework.Expression.Literal
import Bracework.Expression.Machine
import Bracework.Expression.Operator
import Bracework.Expression.Parser
import Bracework.Expression.Path
import Bracework.Expression.Printer
import Bracework.Expression.Progress
import Bracework.Expression.Reader
import Bracework.Extension.Provider
import Bracework.Extension.Standard
import Bracework.Format.Datum
import Bracework.Format.DiagnosticRecord
import Bracework.Format.DocumentRecord
import Bracework.Format.Drawing
import Bracework.Format.ExpressionRecord
import Bracework.Format.Json
import Bracework.Format.Output
import Bracework.Format.TokenRecord
import Bracework.Format.Yaml.Resolution
import Bracework.Format.Yaml.Scalar
import Bracework.Format.Yaml.Tree
import Bracework.Lexer.Blocks
import Bracework.Lexer.Builtin
import Bracework.Lexer.Form
import Bracework.Lexer.Lexed
import Bracework.Lexer.Reading
import Bracework.Main
import Bracework.Proofs.Assembly.Events
import Bracework.Proofs.Assembly.Renumbered
import Bracework.Proofs.Assembly.Scoping
import Bracework.Proofs.CommandLine.Verdict
import Bracework.Proofs.Expression.Acceptance
import Bracework.Proofs.Expression.Descent
import Bracework.Proofs.Expression.Grammar
import Bracework.Proofs.Expression.Legible
import Bracework.Proofs.Expression.Links
import Bracework.Proofs.Expression.Outcome
import Bracework.Proofs.Expression.PathSpelling
import Bracework.Proofs.Expression.Refusal
import Bracework.Proofs.Expression.Region
import Bracework.Proofs.Expression.Rereading
import Bracework.Proofs.Expression.RoundTrip
import Bracework.Proofs.Expression.Rules
import Bracework.Proofs.Expression.Sequences
import Bracework.Proofs.Expression.Shortcut
import Bracework.Proofs.Expression.WrittenOperand
import Bracework.Proofs.Expression.WrittenPath
import Bracework.Proofs.Format.Outline
import Bracework.Proofs.Lexer.Appended
import Bracework.Proofs.Lexer.BlockCheck
import Bracework.Proofs.Lexer.Brackets
import Bracework.Proofs.Lexer.Completion
import Bracework.Proofs.Lexer.Displaced
import Bracework.Proofs.Lexer.Fragments
import Bracework.Proofs.Lexer.Leftmost
import Bracework.Proofs.Lexer.LetterCase
import Bracework.Proofs.Lexer.Places
import Bracework.Proofs.Lexer.Readings
import Bracework.Proofs.Lexer.Spelling
import Bracework.Proofs.Lexer.Tiling
import Bracework.Proofs.Settings.Overridden
import Bracework.Proofs.Source.Excerpts
import Bracework.Proofs.Source.Lines
import Bracework.Proofs.Template.Concatenation
import Bracework.Proofs.Template.Drift
import Bracework.Proofs.Template.Inclusions
import Bracework.Proofs.Template.KeywordCase
import Bracework.Proofs.Template.LockStep
import Bracework.Proofs.Template.Moves
import Bracework.Proofs.Template.Pairing
import Bracework.Proofs.Template.Shorthands
import Bracework.Proofs.Text.Bytes
import Bracework.Proofs.Text.Trimmed
import Bracework.Proofs.Text.Words
import Bracework.Settings.Basic
import Bracework.Settings.Layers
import Bracework.Settings.Value
import Bracework.Source.Excerpt
import Bracework.Source.File
import Bracework.Source.Position
import Bracework.Source.Window
import Bracework.Tag.Basic
import Bracework.Tag.Clause
import Bracework.Tag.Parts
import Bracework.Tag.Piece
import Bracework.Template
import Bracework.Text.Basic
import Bracework.Text.Boundaries
import Bracework.Text.Letters
import Bracework.Text.Located
import Bracework.Text.Quoted
import Bracework.Text.Space
import Bracework.Text.Utf8
import Bracework.Text.Words
import Bracework.Token
import Bracework.Toml.Document
import Bracework.Toml.Moment
import Bracework.Toml.Number
import Bracework.Toml.Strings
import Bracework.Toml.Table
import Bracework.Toml.Value
import Bracework.Proofs.Expression.StringLiterals
import Bracework.Proofs.Expression.MachineMoves
import Bracework.Proofs.Expression.NumberLiterals
import Bracework.Proofs.Expression.StepCount
import Bracework.Proofs.Expression.Preorder
import Bracework.Proofs.Expression.Regrouping
import Bracework.Proofs.Expression.OpenFrames
import Bracework.Proofs.Expression.ArenaTree
import Bracework.Proofs.Expression.CompiledPath
import Bracework.Proofs.Lexer.Clauses
