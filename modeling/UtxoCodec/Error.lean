import UtxoCodec.Bech32.Fault
import UtxoCodec.Text.Hex
import UtxoCodec.Json.Basic

/-!
# Errors

Errors are causes; their texts are in the `message` functions. A value that has no canonical encoding
is an `EncodingError`, bytes or texts that denote no value are a `DecodingError`, JSON of the wrong
shape is a `JsonError`, and an input that a derivation cannot use is an `InputError`. Texts of errors
met while reading JSON stand inside that of the `JsonError`.

Texts are given in full, but for faults of the JSON itself, which are abbreviated (`JsonError.detail`).

`Error.aborts` singles out the readings of hexadecimal text that come to no outcome.
-/

namespace UtxoCodec

/-- A value that breaks a rule of the canonical encoding. -/
inductive EncodingError where
  | malformedAmount (text : String)
  | amountOutOfRange (amount : Nat)
  | amountNotInSupply (amount supply : Nat)
  | invalidLength (what : String) (length least greatest : Nat)
  | invalidCount (what : String) (count greatest : Nat)
  | unsorted (what : String)
  | duplicate (what id : String)
  | unrecognizedKind (what : String) (kind : UInt8)
  | disallowed (output what : String) (kind : UInt8)
  | missing (output what : String) (kind : UInt8)
  | nullNativeTokenAmount
  | invalidTokenScheme (reason : String)
  | nullTimestamp (what : String)
  | invalidOutputIndex (index : UInt16)
  | bech32 (fault : Bech32.Fault)
  | rentOverflow
  | invalidOpaqueBody (kind : UInt8)
  deriving DecidableEq, Repr

namespace EncodingError

/-- The text of the error. -/
def message : EncodingError → String
  | malformedAmount text => s!"malformed decimal amount `{text}`"
  | amountOutOfRange amount => s!"amount `{amount}` does not fit into 64 bits"
  | amountNotInSupply amount supply => s!"amount `{amount}` is not within 1..={supply}"
  | invalidLength what length least greatest =>
    s!"{what} length {length} is not within {least}..={greatest}"
  | invalidCount what count greatest => s!"too many {what}: {count} > {greatest}"
  | unsorted what => s!"{what} are not sorted"
  | duplicate what id => s!"duplicate {what} {id}"
  | unrecognizedKind what kind =>
    s!"{what} kind {kind} is not recognized and has no canonical encoding"
  | disallowed output what kind => s!"{output} output does not allow {what} kind {kind}"
  | missing output what kind => s!"{output} output is missing the {what} of kind {kind}"
  | nullNativeTokenAmount => "native token amount must not be zero"
  | invalidTokenScheme reason => s!"invalid token scheme: {reason}"
  | nullTimestamp what => s!"{what} timestamp must not be zero"
  | invalidOutputIndex index => s!"output index {index} is not within 0..=127"
  | bech32 fault => s!"invalid bech32: {fault.message}"
  | rentOverflow => "storage deposit computation overflowed"
  | invalidOpaqueBody kind =>
    s!"opaque body of output kind {kind} is not a layout with an unrecognized element"

end EncodingError

/-- Bytes, or a text that spells bytes, that denote no value. -/
inductive DecodingError where
  | unexpectedEnd
  | trailingBytes (count : Nat)
  | unknownKind (what : String) (kind : UInt8)
  | invalidHex (what : String) (fault : Hex.Fault)
  | invalidIdLength (what : String) (expected actual : Nat)
  | invalid (error : EncodingError)
  deriving DecidableEq, Repr

namespace DecodingError

/-- The text of the error. -/
def message : DecodingError → String
  | unexpectedEnd => "unexpected end of input"
  | trailingBytes count => s!"{count} trailing byte(s) after the value"
  | unknownKind what kind => s!"unknown {what} kind {kind}"
  | invalidHex what fault => s!"invalid hex for {what}: {fault.message}"
  | invalidIdLength what expected actual => s!"{what} must be {expected} bytes, got {actual}"
  | invalid error => s!"invalid value: {error.message}"

/-- Whether the error stands for a reading without outcome. -/
def aborts : DecodingError → Bool
  | invalidHex _ .abort => true
  | _ => false

end DecodingError

/-- JSON that does not have the shape of the value to be read. -/
inductive JsonError where
  /-- The text is not JSON. -/
  | notJson
  /-- Another JSON type is wanted. -/
  | invalidType
  /-- An integer does not fit its width, or an object has the wrong number of fields. -/
  | invalidValue
  /-- An array in place of a record has too few or too many items. -/
  | invalidLength
  | missingField (name : String)
  | unknownField (name : String)
  | repeatedField (name : String)
  | unknownName (name : String)
  /-- The discriminator of a tagged object is no natural number. -/
  | kindNotInteger (what : String)
  | kindOutOfRange (what : String) (kind : Nat)
  | unknownAddressKind (kind : UInt8)
  | badBytes (text : String) (fault : Hex.Fault)
  | badNumber (text : String) (fault : Hex.Fault)
  | opaqueWithField (name : String)
  | opaqueNotText
  | opaqueBytes (fault : Hex.Fault)
  | encoding (error : EncodingError)
  | decoding (error : DecodingError)
  | unknownResponse (kind : String)
  /-- The payload of an envelope does not read. -/
  | payload (error : JsonError)
  deriving DecidableEq, Repr

namespace JsonError

/-- The text of the error, without the heading that names JSON. A fault that lies in the JSON, and not
in what it stands for, is abbreviated: `notJson`, `invalidType`, `invalidValue` and `invalidLength` only
name the fault, without what was found, what was expected and the position, and `unknownName` and
`unknownField` leave out the names that are known. -/
def detail : JsonError → String
  | notJson => "syntax"
  | invalidType => "invalid type"
  | invalidValue => "invalid value"
  | invalidLength => "invalid length"
  | missingField name => s!"missing field `{name}`"
  | unknownField name => s!"unknown field `{name}`"
  | repeatedField name => s!"duplicate field `{name}`"
  | unknownName name => s!"unknown variant `{name}`"
  | kindNotInteger what => s!"{what} type must be an integer"
  | kindOutOfRange what kind => s!"{what} type {kind} out of range"
  | unknownAddressKind kind => s!"unknown address type {kind}"
  | badBytes text fault => s!"invalid hex `{text}`: {fault.message}"
  | badNumber text fault => s!"invalid U256 `{text}`: {fault.message}"
  | opaqueWithField name => s!"opaque output body cannot be combined with `{name}`"
  | opaqueNotText => "opaque output body must be a hex string"
  | opaqueBytes fault => s!"invalid opaque output body: {fault.message}"
  | encoding error => error.message
  | decoding error => error.message
  | unknownResponse kind => s!"unknown response type `{kind}`"
  | payload error => s!"invalid JSON: {error.detail}"

/-- The text of the error, abbreviated as `detail` is. -/
def message (e : JsonError) : String := s!"invalid JSON: {e.detail}"

/-- Whether the error stands for a reading without outcome. -/
def aborts : JsonError → Bool
  | badBytes _ .abort | badNumber _ .abort | opaqueBytes .abort => true
  | decoding error => error.aborts
  | payload error => error.aborts
  | _ => false

end JsonError

/-- An input that a derivation cannot use. -/
inductive InputError where
  | notAChainOutput (kind : String)
  | notAnAliasAddress (kind : String)
  | serialNumberOutOfRange (serialNumber : UInt64)
  | unknownTokenScheme (kind : UInt8)
  | outputIndexOutOfRange (index : UInt16)
  deriving DecidableEq, Repr

namespace InputError

/-- The text of the error. -/
def message : InputError → String
  | notAChainOutput kind => s!"{kind} outputs have no chain identifier"
  | notAnAliasAddress kind => s!"expected an alias address, found a {kind} address"
  | serialNumberOutOfRange serialNumber => s!"serial number {serialNumber} exceeds 32 bits"
  | unknownTokenScheme kind => s!"unknown token scheme kind {kind}"
  | outputIndexOutOfRange index => s!"output index {index} is not within 0..=127"

end InputError

/-- Any error of the library. -/
inductive Error where
  | encoding (error : EncodingError)
  | decoding (error : DecodingError)
  | json (error : JsonError)
  | input (error : InputError)
  /-- An envelope with a discriminator that is not known, and its payload as received. -/
  | unknownResponse (kind : String) (payload : Json)
  deriving DecidableEq, Repr

namespace Error

/-- The text of the error. -/
def message : Error → String
  | encoding error => error.message
  | decoding error => error.message
  | json error => error.message
  | input error => error.message
  | unknownResponse kind _ => s!"unknown response type `{kind}`"

/-- Whether the error stands for a reading without outcome. -/
def aborts : Error → Bool
  | decoding error => error.aborts
  | json error => error.aborts
  | _ => false

end Error

end UtxoCodec
