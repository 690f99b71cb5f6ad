import BankStatement.Bank.Reader
import BankStatement.Bank.Settlement
import BankStatement.Calendar.Date
import BankStatement.Calendar.Layout
import BankStatement.Decimal.Basic
import BankStatement.Decimal.Binary
import BankStatement.Decimal.Notation
import BankStatement.Document.Json
import BankStatement.Document.Value
import BankStatement.Document.Yaml
import BankStatement.Draft
import BankStatement.Fault
import BankStatement.Importer
import BankStatement.Journal.Basic
import BankStatement.Journal.Message
import BankStatement.Matching.Classifier
import BankStatement.Matching.Duplicates
import BankStatement.Matching.Glob
import BankStatement.Matching.Normal
import BankStatement.Matching.Reference
import BankStatement.Movement
import BankStatement.MovementTable
import BankStatement.Pattern.Node
import BankStatement.Pattern.Reader
import BankStatement.Proofs.Bank.IngBooking
import BankStatement.Proofs.Bank.IngExport
import BankStatement.Proofs.Bank.IngExportReading
import BankStatement.Proofs.Bank.IngStatement
import BankStatement.Proofs.Bank.WuestenrotStatement
import BankStatement.Proofs.Calendar.Order
import BankStatement.Proofs.Decimal.Notation
import BankStatement.Proofs.Decimal.Rounding
import BankStatement.Proofs.Decimal.Value
import BankStatement.Proofs.Matching.Ambiguity
import BankStatement.Proofs.Matching.DuplicateScan
import BankStatement.Proofs.Matching.Findings
import BankStatement.Proofs.Matching.Independence
import BankStatement.Proofs.Matching.Links
import BankStatement.Proofs.Matching.PriorMovements
import BankStatement.Proofs.Matching.Reclassification
import BankStatement.Proofs.Matching.Reimport
import BankStatement.Proofs.Matching.Review
import BankStatement.Proofs.Pattern.Captures
import BankStatement.Proofs.Pattern.Ways
import BankStatement.Proofs.Pattern.Words
import BankStatement.Proofs.Reading.Assigning
import BankStatement.Proofs.Reading.GermanAmount
import BankStatement.Proofs.Reading.GermanDate
import BankStatement.Proofs.Reading.GermanPatterns
import BankStatement.Proofs.Session.Containment
import BankStatement.Proofs.Session.DynamicTables
import BankStatement.Proofs.Session.Folding
import BankStatement.Proofs.Session.Growth
import BankStatement.Proofs.Session.HoldingBack
import BankStatement.Proofs.Session.Invariant
import BankStatement.Proofs.Session.Openings
import BankStatement.Proofs.Session.Passage
import BankStatement.Proofs.Session.Preview
import BankStatement.Proofs.Session.Reached
import BankStatement.Proofs.Session.Records
import BankStatement.Proofs.Session.SectionReading
import BankStatement.Proofs.Session.Sections
import BankStatement.Proofs.Session.Visit
import BankStatement.Proofs.Source.Utf8
import BankStatement.Proofs.Source.WrittenFile
import BankStatement.Proofs.Template.LenientLoading
import BankStatement.Proofs.Template.Shape
import BankStatement.Proofs.Text.Classes
import BankStatement.Proofs.Text.Order
import BankStatement.Proofs.Text.Splitting
import BankStatement.Proofs.Text.Trimming
import BankStatement.Proofs.Text.Written
import BankStatement.Reading.Line
import BankStatement.Reading.Notation
import BankStatement.Reading.Variable
import BankStatement.Session.Basic
import BankStatement.Session.Feed
import BankStatement.Session.Fold
import BankStatement.Session.Record
import BankStatement.Session.Run
import BankStatement.Settings
import BankStatement.Source.CodePage
import BankStatement.Source.Pages
import BankStatement.Source.TextFile
import BankStatement.Source.Utf16
import BankStatement.Source.Utf8
import BankStatement.Template.Basic
import BankStatement.Template.Build
import BankStatement.Template.Bundled.Barclays
import BankStatement.Template.Bundled.Ing
import BankStatement.Template.Bundled.Wuestenrot
import BankStatement.Template.Catalogue
import BankStatement.Template.Document
import BankStatement.Text.Basic
import BankStatement.Text.Case
import BankStatement.Text.CharClass
import BankStatement.Text.Digits
import BankStatement.Text.Quoted
import BankStatement.Text.Table.Alphanumeric
import BankStatement.Text.Table.Case
import BankStatement.Text.Table.Digit
import BankStatement.Text.Table.SigmaContext
import BankStatement.Text.Table.Unprintable
import BankStatement.Proofs.Reading.AmountNotation
import BankStatement.Proofs.Bank.BarclaysStatement
import BankStatement.Proofs.Reading.Assignments
import BankStatement.Proofs.Reading.Labels
import BankStatement.Proofs.Session.LabelBlocks
import BankStatement.Proofs.Session.Occurrences
import BankStatement.Proofs.Session.Reframing
import BankStatement.Proofs.Session.Rejection
import BankStatement.Proofs.Session.Repeats
import BankStatement.Proofs.Reading.Positions
import BankStatement.Proofs.Reading.Counterparty
import BankStatement.Proofs.Matching.AliasSpelling
import BankStatement.Proofs.Bank.SettlementOrder
import BankStatement.Proofs.Bank.SettlementPreview
import BankStatement.Proofs.Bank.BarclaysFees
import BankStatement.Proofs.Matching.SecurityLinks
import BankStatement.Proofs.Source.PageMerging
import BankStatement.Proofs.Source.UnicodeFile
import BankStatement.Proofs.Source.Utf16
import BankStatement.Proofs.Document.Keys
import BankStatement.Proofs.Template.CatalogueOrder
import BankStatement.Proofs.Matching.DetectedAccount
import BankStatement.Proofs.Matching.NormalNames
import BankStatement.Proofs.Reading.Places
import BankStatement.Proofs.Session.Turns
import BankStatement.Proofs.Text.LowerAgain
import BankStatement.Proofs.Calendar.NumericLayout
import BankStatement.Proofs.Reading.DateFormats
