import TagNesting.Checker
import TagNesting.Collection.Session
import TagNesting.Main
import TagNesting.Proofs.Checker.Account
import TagNesting.Proofs.Checker.Balance
import TagNesting.Proofs.Checker.Bystanders
import TagNesting.Proofs.Checker.Ledger
import TagNesting.Proofs.Checker.Order
import TagNesting.Proofs.Checker.Pattern
import TagNesting.Proofs.Checker.Policies
import TagNesting.Proofs.Checker.Reconcile
import TagNesting.Proofs.Checker.Relabel
import TagNesting.Proofs.Checker.Rules
import TagNesting.Proofs.Checker.Subjects
import TagNesting.Proofs.Checker.Unwind
import TagNesting.Proofs.Collection.Map
import TagNesting.Proofs.Collection.Pairing
import TagNesting.Proofs.Collection.Queue
import TagNesting.Proofs.Collection.Session
import TagNesting.Proofs.Collection.Stack
import TagNesting.Proofs.CommandLine.Arguments
import TagNesting.Proofs.CommandLine.Check
import TagNesting.Proofs.CommandLine.Document
import TagNesting.Proofs.Finding.Json
import TagNesting.Proofs.Finding.Report
import TagNesting.Proofs.Json.Decode
import TagNesting.Proofs.Json.Faithful
import TagNesting.Proofs.Json.Grammar
import TagNesting.Proofs.Json.Members
import TagNesting.Proofs.Json.Numeral
import TagNesting.Proofs.Json.Objects
import TagNesting.Proofs.Json.QuotedText
import TagNesting.Proofs.Json.Record
import TagNesting.Proofs.Json.RoundTrip
import TagNesting.Proofs.Json.Triple
import TagNesting.Proofs.Json.Value
import TagNesting.Proofs.Nesting.Halves
import TagNesting.Proofs.Nesting.Hoisted
import TagNesting.Proofs.Nesting.Insertion
import TagNesting.Proofs.Nesting.Invisible
import TagNesting.Proofs.Nesting.SingleDefect
import TagNesting.Proofs.Nesting.WellNested
import TagNesting.Proofs.Scanner.Lines
import TagNesting.Proofs.Scanner.Margins
import TagNesting.Proofs.Scanner.Modes
import TagNesting.Proofs.Scanner.Pieces
import TagNesting.Proofs.Scanner.Rescan
import TagNesting.Proofs.Scanner.Shift
import TagNesting.Proofs.Settings.Json
import TagNesting.Proofs.Text.IllFormed
import TagNesting.Proofs.Text.Line
import TagNesting.Proofs.Text.Spelling
import TagNesting.Proofs.Text.Stretch
import TagNesting.Proofs.Text.Trim
import TagNesting.Proofs.Text.Utf8
import TagNesting.Proofs.Token.Cut
import TagNesting.Proofs.Token.Grammar
import TagNesting.Proofs.Token.Json
import TagNesting.Proofs.Token.Numbered
import TagNesting.Proofs.Token.Print
import TagNesting.Proofs.Unicode.Apart
import TagNesting.Proofs.Words
import TagNesting.Proofs.CommandLine.Arguments
