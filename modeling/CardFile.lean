import CardFile.Address.Basic
import CardFile.Address.Western
import CardFile.Card.Basic
import CardFile.Card.Category
import CardFile.Card.Decode
import CardFile.Card.Encode
import CardFile.Card.Field
import CardFile.Card.Json
import CardFile.Command.Arguments
import CardFile.Command.Format
import CardFile.Command.Run
import CardFile.Command.Usage
import CardFile.Date
import CardFile.Email
import CardFile.FlagSet
import CardFile.Json.Basic
import CardFile.Json.Member
import CardFile.Json.Number
import CardFile.Json.Reader
import CardFile.Json.Writer
import CardFile.Main
import CardFile.Name.Basic
import CardFile.Name.Matching
import CardFile.Name.Western
import CardFile.Octets.Base64
import CardFile.Octets.QuotedPrintable
import CardFile.Proofs.Canonical
import CardFile.Proofs.Category
import CardFile.Proofs.Components
import CardFile.Proofs.Concatenation
import CardFile.Proofs.ContentLine
import CardFile.Proofs.Date
import CardFile.Proofs.Digits
import CardFile.Proofs.Document
import CardFile.Proofs.FieldProperties
import CardFile.Proofs.FlagSet
import CardFile.Proofs.Fold
import CardFile.Proofs.Framing
import CardFile.Proofs.Nesting
import CardFile.Proofs.Normalization
import CardFile.Proofs.Octets
import CardFile.Proofs.OnWire
import CardFile.Proofs.Origin
import CardFile.Proofs.Parameter
import CardFile.Proofs.PlainText
import CardFile.Proofs.Property
import CardFile.Proofs.ReadNames
import CardFile.Proofs.Recovered
import CardFile.Proofs.Reserialization
import CardFile.Proofs.RoundTrip
import CardFile.Proofs.SameLines
import CardFile.Proofs.ScoreText
import CardFile.Proofs.ScoreValue
import CardFile.Proofs.Step
import CardFile.Proofs.Structured
import CardFile.Proofs.Transfer
import CardFile.Proofs.Trim
import CardFile.Proofs.WireShape
import CardFile.Score.Basic
import CardFile.Score.Decay
import CardFile.Score.Decimal
import CardFile.Score.Json
import CardFile.Score.Text
import CardFile.Settings.Basic
import CardFile.Settings.Dotenv
import CardFile.Settings.Path
import CardFile.Settings.Toml
import CardFile.Settings.Value
import CardFile.Text.Alphanumeric
import CardFile.Text.Ascii
import CardFile.Text.Blank
import CardFile.Text.CaseTable
import CardFile.Text.Charset
import CardFile.Text.Charset.Table
import CardFile.Text.Join
import CardFile.Text.Lower
import CardFile.Text.Range
import CardFile.Text.Surrogate
import CardFile.Text.Utf8
import CardFile.Wire.ContentLine
import CardFile.Wire.Document
import CardFile.Wire.Fold
import CardFile.Wire.Parameter
import CardFile.Wire.Record
import CardFile.Wire.Structured
import CardFile.Wire.Transfer
import CardFile.Wire.Writer
import CardFile.Proofs.Duplicate
import CardFile.Proofs.Reordering
import CardFile.Proofs.LineHead
import CardFile.Proofs.SoftBreak
import CardFile.Proofs.Entries
import CardFile.Proofs.NameMatching
import CardFile.Proofs.NestedBlock
import CardFile.Proofs.Insertion
import CardFile.Proofs.Declaration
import CardFile.Proofs.Words
import CardFile.Proofs.NameSplitting
import CardFile.Proofs.NameForms
import CardFile.Proofs.Mailbox
import CardFile.Proofs.OpenBlocks
import CardFile.Proofs.NameSuffixes
import CardFile.Proofs.CategoryText
import CardFile.Proofs.AddressLayout
import CardFile.Proofs.AddressLabel
import CardFile.Proofs.OutputLines
import CardFile.Proofs.ScoreLimit
import CardFile.Proofs.Segments
import CardFile.Proofs.FlagText
import CardFile.Proofs.JsonCard
import CardFile.Proofs.JsonLeaf
import CardFile.Proofs.JsonMember
import CardFile.Proofs.JsonNumber
import CardFile.Proofs.JsonScore
import CardFile.Proofs.JsonText
import CardFile.Proofs.PhysicalLines
import CardFile.Proofs.DateText
import CardFile.Proofs.ParameterValue
import CardFile.Proofs.NumeralScan
import CardFile.Proofs.LeadingNumber
