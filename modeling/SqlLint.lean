import SqlLint.Text.Blank
import SqlLint.Text.Word
import SqlLint.Text.Case
import SqlLint.Text.Quoted
import SqlLint.Text.Lines
import SqlLint.Text.Natural
import SqlLint.Lexer.Rule
import SqlLint.Lexer.Line
import SqlLint.Settings.Overlay
import SqlLint.Markup.Extract
import SqlLint.Log
import SqlLint.Json.Printer
import SqlLint.Json.Reader
import SqlLint.Document.Print
import SqlLint.Settings.Toml
import SqlLint.Main
import SqlLint.Proofs.DocumentLines
import SqlLint.Proofs.KeywordRepair
import SqlLint.Proofs.Lossless
import SqlLint.Proofs.MarkupRoundTrip
import SqlLint.Proofs.SettingsIndependence
import SqlLint.Proofs.StateReplay
import SqlLint.Proofs.TokenGrammar
import SqlLint.Proofs.EntryPoints
import SqlLint.Proofs.Sites
import SqlLint.Proofs.ViolationPlaces
import SqlLint.Proofs.CaseVariants
import SqlLint.Proofs.CommentTexts
import SqlLint.Proofs.JsonText
import SqlLint.Proofs.ReportRoundTrip
import SqlLint.Proofs.TomlValues
import SqlLint.Proofs.SettingsRoundTrip
import SqlLint.Proofs.Asterisks
import SqlLint.Proofs.KeywordTokens
import SqlLint.Proofs.Halts
import SqlLint.Proofs.OpenComments
import SqlLint.Proofs.BlankRuns
import SqlLint.Proofs.QuotedLiterals
import SqlLint.Proofs.LongerTexts
import SqlLint.Proofs.SafeBreaks
import SqlLint.Proofs.OuterBlanks
import SqlLint.Proofs.ItemBoundaries
import SqlLint.Proofs.EntityDecoding
import SqlLint.Proofs.LineBlocks
import SqlLint.Proofs.BlankLines
import SqlLint.Proofs.BetweenClauses
import SqlLint.Proofs.Lookups
import SqlLint.Proofs.Layers
import SqlLint.Proofs.ExtraWords
import SqlLint.Proofs.LineConventions
import SqlLint.Proofs.RawTokens
import SqlLint.Proofs.KeywordListing
