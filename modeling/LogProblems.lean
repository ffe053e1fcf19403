import LogProblems.CommandLine.Arguments
import LogProblems.CommandLine.Report
import LogProblems.CommandLine.Run
import LogProblems.Diagnostic.Listing
import LogProblems.Diagnostic.Record
import LogProblems.Document.Json.Number
import LogProblems.Document.Json.Printer
import LogProblems.Document.Json.Reader
import LogProblems.Document.Node
import LogProblems.Document.Value
import LogProblems.Document.Yaml.Cursor
import LogProblems.Document.Yaml.Layout
import LogProblems.Document.Yaml.Meaning
import LogProblems.Document.Yaml.Reader
import LogProblems.Document.Yaml.Scalar
import LogProblems.Document.Yaml.Tag
import LogProblems.Document.Yaml.Token
import LogProblems.Document.Yaml.Tree
import LogProblems.Files.Tree
import LogProblems.Main
import LogProblems.Matcher.Compiled
import LogProblems.Matcher.Definition
import LogProblems.Matcher.Fault
import LogProblems.Matcher.Location
import LogProblems.Matcher.Message
import LogProblems.Matcher.Path
import LogProblems.Matcher.Severity
import LogProblems.Matcher.State
import LogProblems.Matcher.Wire
import LogProblems.Pattern.Automaton
import LogProblems.Pattern.Basic
import LogProblems.Pattern.Compile
import LogProblems.Pattern.Extended.Bracket
import LogProblems.Pattern.Extended.Escape
import LogProblems.Pattern.Extended.Expression
import LogProblems.Pattern.Extended.Meaning
import LogProblems.Pattern.Extended.Reader
import LogProblems.Pattern.Extended.Search
import LogProblems.Pattern.Extended.Sets
import LogProblems.Pattern.Extended.Syntax
import LogProblems.Pattern.Footprint
import LogProblems.Pattern.Regular
import LogProblems.Pattern.Standard.Meaning
import LogProblems.Pattern.Standard.Reader
import LogProblems.Pattern.Standard.Syntax
import LogProblems.Proofs.CommandLine.Choice
import LogProblems.Proofs.CommandLine.DefaultSelection
import LogProblems.Proofs.CommandLine.History
import LogProblems.Proofs.CommandLine.Outcome
import LogProblems.Proofs.CommandLine.Rescan
import LogProblems.Proofs.Diagnostic.Grouping
import LogProblems.Proofs.Document.Json.RoundTrip
import LogProblems.Proofs.Document.Spelling
import LogProblems.Proofs.Files.Tree
import LogProblems.Proofs.Matcher.Advance
import LogProblems.Proofs.Matcher.Block
import LogProblems.Proofs.Matcher.Combined
import LogProblems.Proofs.Matcher.InnerLoops
import LogProblems.Proofs.Matcher.LogLink
import LogProblems.Proofs.Matcher.LoopMessages
import LogProblems.Proofs.Matcher.Numerals
import LogProblems.Proofs.Matcher.Position
import LogProblems.Proofs.Matcher.Range
import LogProblems.Proofs.Matcher.Reachable
import LogProblems.Proofs.Matcher.Report
import LogProblems.Proofs.Matcher.SeverityWords
import LogProblems.Proofs.Matcher.Wire
import LogProblems.Proofs.Scan.Alike
import LogProblems.Proofs.Scan.Cancellation
import LogProblems.Proofs.Scan.EntryPoints
import LogProblems.Proofs.Scan.InnerLoops
import LogProblems.Proofs.Scan.Interleaving
import LogProblems.Proofs.Scan.LogLink
import LogProblems.Proofs.Scan.Partition
import LogProblems.Proofs.Scan.Progress
import LogProblems.Proofs.Scan.Selected
import LogProblems.Proofs.Scan.SeverityWords
import LogProblems.Proofs.Scan.Titles
import LogProblems.Proofs.Scan.WrittenSteps
import LogProblems.Proofs.Settings.Resolution
import LogProblems.Proofs.Settings.SavedSession
import LogProblems.Proofs.Settings.Selection
import LogProblems.Proofs.Settings.Session
import LogProblems.Proofs.Text.Lowercase
import LogProblems.Proofs.Text.Utf8
import LogProblems.Scan.Scanner
import LogProblems.Settings.Document
import LogProblems.Settings.Selection
import LogProblems.Settings.Session
import LogProblems.Text.Blank
import LogProblems.Text.Integer
import LogProblems.Text.Lowercase
import LogProblems.Text.Quoted
import LogProblems.Text.Utf8
import LogProblems.Unicode.Age
import LogProblems.Unicode.Block
import LogProblems.Unicode.CaseRun
import LogProblems.Unicode.Category
import LogProblems.Unicode.CharSet
import LogProblems.Unicode.Folding
import LogProblems.Unicode.Grapheme
import LogProblems.Unicode.Property
import LogProblems.Unicode.Script
