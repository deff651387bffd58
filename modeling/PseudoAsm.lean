import PseudoAsm.Text.Basic
import PseudoAsm.Text.Pieces
import PseudoAsm.Text.Display
import PseudoAsm.Text.CharacterSet
import PseudoAsm.Text.Utf8
import PseudoAsm.Text.Similarity
import PseudoAsm.Numeral
import PseudoAsm.IntegerLiteral
import PseudoAsm.Symbol.Forest
import PseudoAsm.Template.Fill
import PseudoAsm.Form
import PseudoAsm.Table.Format
import PseudoAsm.Table.Builtin
import PseudoAsm.Listing.Basic
import PseudoAsm.Settings
import PseudoAsm.File.Access
import PseudoAsm.File.Tree
import PseudoAsm.Table.Load
import PseudoAsm.CommandLine.Switch
import PseudoAsm.CommandLine.Words
import PseudoAsm.CommandLine.Request
import PseudoAsm.CommandLine.Report
import PseudoAsm.CommandLine.Run
import PseudoAsm.Main
import PseudoAsm.Proofs.Outcome
import PseudoAsm.Proofs.Digits
import PseudoAsm.Proofs.Distinct
import PseudoAsm.Proofs.Text.Decimal
import PseudoAsm.Proofs.Symbol.Lookup
import PseudoAsm.Proofs.Symbol.Definitions
import PseudoAsm.Proofs.Symbol.ReverseLookup
import PseudoAsm.Proofs.Symbol.History
import PseudoAsm.Proofs.Symbol.Forest
import PseudoAsm.Proofs.Expansion
import PseudoAsm.Proofs.Recipe
import PseudoAsm.Proofs.Listing.Lines
import PseudoAsm.Proofs.Listing.Layout
import PseudoAsm.Proofs.Template.Fill
import PseudoAsm.Proofs.Symbol.Shadowing
import PseudoAsm.Proofs.LabelRecovery
import PseudoAsm.Proofs.Word.Address
import PseudoAsm.Proofs.Word.Split
import PseudoAsm.Proofs.Numeral
import PseudoAsm.Proofs.Operand
import PseudoAsm.Proofs.Table.Select
import PseudoAsm.Proofs.Table.Builtin
import PseudoAsm.Proofs.PcRelative
import PseudoAsm.Proofs.Template.Markers
import PseudoAsm.Proofs.Template.Scan
import PseudoAsm.Proofs.Text.Words
import PseudoAsm.Proofs.Text.Plain
import PseudoAsm.Proofs.Text.Lowercase
import PseudoAsm.Proofs.Text.EditDistance
import PseudoAsm.Proofs.Text.Suggestion
import PseudoAsm.Proofs.Register
import PseudoAsm.Proofs.Shape
import PseudoAsm.Proofs.Related
import PseudoAsm.Proofs.Table.Scan
import PseudoAsm.Proofs.Table.Reachability
import PseudoAsm.Proofs.Statement.Tokens
import PseudoAsm.Proofs.Statement.Readers
import PseudoAsm.Proofs.Statement.NormalForm
import PseudoAsm.Proofs.Statement.Resolution
import PseudoAsm.Proofs.Offers
import PseudoAsm.Proofs.Template.Rendering
import PseudoAsm.Proofs.Template.FilledLines
import PseudoAsm.Proofs.Text.Replace
import PseudoAsm.Proofs.Template.Overlap
import PseudoAsm.Proofs.Template.Sequential
import PseudoAsm.Proofs.Template.Reading
import PseudoAsm.Proofs.Table.Markers
import PseudoAsm.Proofs.Table.Instructions
import PseudoAsm.Proofs.Symbol.Displacement
import PseudoAsm.Proofs.Displacement
import PseudoAsm.Proofs.OperandValues
import PseudoAsm.Proofs.Listing.Agreement
import PseudoAsm.Proofs.Listing.PositionIndependence
import PseudoAsm.Proofs.Listing.LabelDefinitions
import PseudoAsm.Proofs.Listing.WrittenLabels
import PseudoAsm.Proofs.Listing.KeptLines
import PseudoAsm.Proofs.Listing.Fixpoint
import PseudoAsm.Proofs.LoadImmediate
import PseudoAsm.Proofs.CompactAddress
import PseudoAsm.Proofs.FilledMarkers
import PseudoAsm.Proofs.Listing.Success
import PseudoAsm.Proofs.Listing.LabelUse
import PseudoAsm.Proofs.Text.Lines
import PseudoAsm.Proofs.Table.Format
import PseudoAsm.Proofs.Table.Rejection
import PseudoAsm.Proofs.Table.Caret
import PseudoAsm.Proofs.Listing.Failure
import PseudoAsm.Proofs.AddressSpace
import PseudoAsm.Proofs.CommandLine.Runs
import PseudoAsm.Proofs.CommandLine.Requests
import PseudoAsm.Proofs.CommandLine.Addresses
import PseudoAsm.Proofs.CommandLine.Failures
import PseudoAsm.Proofs.CommandLine.Modes
