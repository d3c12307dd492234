import SignedHooks.Body
import SignedHooks.CommandLine.Invocation
import SignedHooks.CommandLine.Options
import SignedHooks.CommandLine.Reader
import SignedHooks.CommandLine.Usage
import SignedHooks.CommandLine.Word
import SignedHooks.Decimal.Binary64
import SignedHooks.Decimal.Digits
import SignedHooks.Decimal.Shortest
import SignedHooks.Decimal.Signed64
import SignedHooks.Digest.Hex
import SignedHooks.Digest.Hmac
import SignedHooks.Digest.Sha256
import SignedHooks.Event
import SignedHooks.Event.Audience
import SignedHooks.Event.Email
import SignedHooks.Event.Kind
import SignedHooks.Event.Record
import SignedHooks.Files.Directory
import SignedHooks.Files.Fault
import SignedHooks.Files.System
import SignedHooks.Header.Collection
import SignedHooks.Header.Fields
import SignedHooks.Header.Line
import SignedHooks.Header.Name
import SignedHooks.Header.Value
import SignedHooks.Instant
import SignedHooks.Json.Fault
import SignedHooks.Json.Number
import SignedHooks.Json.Printer
import SignedHooks.Json.Reader
import SignedHooks.Json.Text
import SignedHooks.Json.Value
import SignedHooks.Log.Directive
import SignedHooks.Log.Filter
import SignedHooks.Log.Pattern
import SignedHooks.Log.Pattern.Class
import SignedHooks.Log.Pattern.Mode
import SignedHooks.Log.Record
import SignedHooks.Log.Stamp
import SignedHooks.Main
import SignedHooks.Program
import SignedHooks.Program.Action
import SignedHooks.Program.Transcript
import SignedHooks.Proofs.Body
import SignedHooks.Proofs.BodyText
import SignedHooks.Proofs.Decimal
import SignedHooks.Proofs.Delivery
import SignedHooks.Proofs.Digest
import SignedHooks.Proofs.EmailReading
import SignedHooks.Proofs.EmailWriting
import SignedHooks.Proofs.EventReading
import SignedHooks.Proofs.ExitCodes
import SignedHooks.Proofs.Expiry
import SignedHooks.Proofs.FiniteDouble
import SignedHooks.Proofs.HashStandard
import SignedHooks.Proofs.HeaderForms
import SignedHooks.Proofs.HeaderLines
import SignedHooks.Proofs.HeaderLookup
import SignedHooks.Proofs.Headers
import SignedHooks.Proofs.JsonGrammar
import SignedHooks.Proofs.JsonNumber
import SignedHooks.Proofs.JsonOrder
import SignedHooks.Proofs.JsonParts
import SignedHooks.Proofs.JsonReading
import SignedHooks.Proofs.JsonText
import SignedHooks.Proofs.JsonWriting
import SignedHooks.Proofs.Milliseconds
import SignedHooks.Proofs.NumberRange
import SignedHooks.Proofs.OptionRows
import SignedHooks.Proofs.PayloadKinds
import SignedHooks.Proofs.PayloadWriting
import SignedHooks.Proofs.PrintedHeaders
import SignedHooks.Proofs.PrintedLines
import SignedHooks.Proofs.RecordForms
import SignedHooks.Proofs.RecordReading
import SignedHooks.Proofs.RecordWriting
import SignedHooks.Proofs.ReplayWindow
import SignedHooks.Proofs.RoundedDouble
import SignedHooks.Proofs.SectionReading
import SignedHooks.Proofs.SettingsFile
import SignedHooks.Proofs.SettingsSources
import SignedHooks.Proofs.Signature
import SignedHooks.Proofs.SignatureForm
import SignedHooks.Proofs.SignedFields
import SignedHooks.Proofs.SigningTimes
import SignedHooks.Proofs.Timestamp
import SignedHooks.Proofs.TimestampCheck
import SignedHooks.Proofs.TimestampForms
import SignedHooks.Proofs.TomlKeys
import SignedHooks.Proofs.Transcripts
import SignedHooks.Proofs.Trim
import SignedHooks.Proofs.UnrelatedHeaders
import SignedHooks.Proofs.Utf8
import SignedHooks.Proofs.Utf8Faults
import SignedHooks.Proofs.Verdict
import SignedHooks.Refusal
import SignedHooks.Schema.Mismatch
import SignedHooks.Session
import SignedHooks.Settings
import SignedHooks.Settings.Failure
import SignedHooks.Settings.File
import SignedHooks.Signature
import SignedHooks.Signer
import SignedHooks.Text.Alphanumeric
import SignedHooks.Text.Blank
import SignedHooks.Text.Quoted
import SignedHooks.Text.Ranges
import SignedHooks.Text.Unprintable
import SignedHooks.Text.Utf8
import SignedHooks.Timestamp
import SignedHooks.Toml.Blank
import SignedHooks.Toml.Excerpt
import SignedHooks.Toml.Moment
import SignedHooks.Toml.Node
import SignedHooks.Toml.Number
import SignedHooks.Toml.Reader
import SignedHooks.Toml.Table
import SignedHooks.Toml.Text
import SignedHooks.Verifier
