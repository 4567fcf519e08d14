import UtxoCodec.Address
import UtxoCodec.Amount
import UtxoCodec.Bech32
import UtxoCodec.Bech32.Fault
import UtxoCodec.Binary64
import UtxoCodec.Binary64.Shortest
import UtxoCodec.Blake2b
import UtxoCodec.Bytes
import UtxoCodec.Derivation
import UtxoCodec.Derivation.Cache
import UtxoCodec.Draft
import UtxoCodec.Environment
import UtxoCodec.Environment.File
import UtxoCodec.Error
import UtxoCodec.Feature
import UtxoCodec.Handler
import UtxoCodec.Identifier
import UtxoCodec.Json.Basic
import UtxoCodec.Json.Number
import UtxoCodec.Json.Parser
import UtxoCodec.Json.Printer
import UtxoCodec.Json.Record
import UtxoCodec.Json.Token
import UtxoCodec.Main
import UtxoCodec.Message
import UtxoCodec.NativeToken
import UtxoCodec.Output
import UtxoCodec.Output.Chain
import UtxoCodec.Output.Rules
import UtxoCodec.Output.Transfer
import UtxoCodec.OutputId
import UtxoCodec.Packing
import UtxoCodec.Pattern.Basic
import UtxoCodec.Pattern.CharSet
import UtxoCodec.Pattern.Match
import UtxoCodec.Pattern.Reader
import UtxoCodec.Protocol
import UtxoCodec.Response
import UtxoCodec.Service
import UtxoCodec.Service.Arguments
import UtxoCodec.Service.Config
import UtxoCodec.Service.Line
import UtxoCodec.Service.LogDirective
import UtxoCodec.Service.LogEntry
import UtxoCodec.Service.LogFilter
import UtxoCodec.SortedKinds
import UtxoCodec.Text.Alphabetic
import UtxoCodec.Text.Alphanumeric
import UtxoCodec.Text.Blank
import UtxoCodec.Text.CharLiteral
import UtxoCodec.Text.Hex
import UtxoCodec.Text.Numeral
import UtxoCodec.Text.Offset
import UtxoCodec.Text.Unprintable
import UtxoCodec.TokenScheme
import UtxoCodec.Toml.Document
import UtxoCodec.Toml.Number
import UtxoCodec.Toml.Reader
import UtxoCodec.Toml.Token
import UtxoCodec.Toml.Value
import UtxoCodec.UnlockCondition
import UtxoCodec.Unrecognized
import UtxoCodec.Proofs.Acceptance
import UtxoCodec.Proofs.Amount
import UtxoCodec.Proofs.Bech32.Address
import UtxoCodec.Proofs.Canonical
import UtxoCodec.Proofs.Checking
import UtxoCodec.Proofs.Collection
import UtxoCodec.Proofs.Derivation.Chain
import UtxoCodec.Proofs.Derivation.Size
import UtxoCodec.Proofs.Draft.Deposit
import UtxoCodec.Proofs.Draft.Order
import UtxoCodec.Proofs.Draft.Reading
import UtxoCodec.Proofs.Framing
import UtxoCodec.Proofs.Handler.Answer
import UtxoCodec.Proofs.Handler.Contract
import UtxoCodec.Proofs.Handler.Run
import UtxoCodec.Proofs.Json.Object
import UtxoCodec.Proofs.Json.Printed
import UtxoCodec.Proofs.Json.Record
import UtxoCodec.Proofs.Json.Tagged
import UtxoCodec.Proofs.Json.Tame
import UtxoCodec.Proofs.OpaqueBody
import UtxoCodec.Proofs.Packing.Fault
import UtxoCodec.Proofs.Packing.Lawful
import UtxoCodec.Proofs.Packing.Order
import UtxoCodec.Proofs.Protocol.Rent
import UtxoCodec.Proofs.RoundTrip
import UtxoCodec.Proofs.Service.Line
import UtxoCodec.Proofs.Sorting
import UtxoCodec.Proofs.Text.Identifier
import UtxoCodec.Proofs.Wire.Envelope
import UtxoCodec.Proofs.Wire.Kept
import UtxoCodec.Proofs.Wire.Tame
