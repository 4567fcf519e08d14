import UtxoCodec.Derivation
import UtxoCodec.Message

/-!
# Responses

Every message is answered by an envelope with a discriminator and a payload. The discriminator alone
decides how the payload is read; an envelope whose discriminator is not known is an error that carries
the payload as received.
-/

namespace UtxoCodec

/-- The report of an operation that failed. -/
structure OperationError where
  operation : String
  message : String
  deriving DecidableEq, Repr

namespace OperationError

/-- The report as one line of text. -/
def text (e : OperationError) : String := s!"{e.operation} failed: {e.message}"

/-- The fields of the JSON form. -/
def record : Json.Record OperationError :=
  open Json.Record in mk <$> required "operation" <*> required "message"

instance : Wire OperationError where
  toJson e := .object [("operation", .string e.operation), ("message", .string e.message)]
  ofJson := record.ofObjectOrArray

end OperationError

/-- The answer to a message. -/
inductive Response where
  | computeAliasId (id : AliasId)
  | computeNftId (id : NftId)
  | computeFoundryId (id : FoundryId)
  | computeOutputId (id : OutputId)
  /-- The output of a draft of a kind. -/
  | buildOutput (kind : DraftKind) (output : Output)
  | packOutput (bytes : Bytes)
  | unpackOutput (output : Output)
  | minimumStorageDeposit (amount : Amount)
  | protocolParameters (parameters : ProtocolParameters)
  | hexToBech32 (bech32 : String)
  | bech32ToHex (hex : String)
  | error (error : OperationError)
  deriving DecidableEq

/-- The discriminators of envelopes. -/
inductive ResponseKind where
  | computeAliasId
  | computeNftId
  | computeFoundryId
  | computeOutputId
  | buildOutput (kind : DraftKind)
  | packOutput
  | unpackOutput
  | minimumStorageDeposit
  | protocolParameters
  | hexToBech32
  | bech32ToHex
  | error
  deriving DecidableEq, Repr

namespace ResponseKind

/-- Every discriminator. -/
def all : List ResponseKind :=
  [computeAliasId, computeNftId, computeFoundryId, computeOutputId, buildOutput .basic,
    buildOutput .alias, buildOutput .foundry, buildOutput .nft, packOutput, unpackOutput,
    minimumStorageDeposit, protocolParameters, hexToBech32, bech32ToHex, error]

/-- The text of the discriminator. -/
def name : ResponseKind → String
  | computeAliasId => "computeAliasIdResponse"
  | computeNftId => "computeNftIdResponse"
  | computeFoundryId => "computeFoundryIdResponse"
  | computeOutputId => "computeOutputIdResponse"
  | buildOutput .basic => "buildBasicOutputResponse"
  | buildOutput .alias => "buildAliasOutputResponse"
  | buildOutput .foundry => "buildFoundryOutputResponse"
  | buildOutput .nft => "buildNftOutputResponse"
  | packOutput => "packOutputResponse"
  | unpackOutput => "unpackOutputResponse"
  | minimumStorageDeposit => "minimumStorageDepositResponse"
  | protocolParameters => "protocolParametersResponse"
  | hexToBech32 => "hexToBech32Response"
  | bech32ToHex => "bech32ToHexResponse"
  | error => "error"

/-- The discriminator with a text. -/
def ofName? (name : String) : Option ResponseKind := all.find? (·.name == name)

end ResponseKind

/-- Why an envelope does not read. -/
inductive EnvelopeError where
  | json (error : JsonError)
  | decoding (error : DecodingError)
  | unknownKind (kind : String) (payload : Json)
  deriving DecidableEq

namespace EnvelopeError

/-- The error of the library. -/
def toError : EnvelopeError → Error
  | json e => .json e
  | decoding e => .decoding e
  | unknownKind kind payload => .unknownResponse kind payload

/-- The error of an envelope that is read as part of a JSON value. -/
def toJsonError : EnvelopeError → JsonError
  | json e => .payload e
  | decoding e => .decoding e
  | unknownKind kind _ => .unknownResponse kind

end EnvelopeError

namespace Response

/-- The discriminator. -/
def kind : Response → ResponseKind
  | computeAliasId _ => .computeAliasId
  | computeNftId _ => .computeNftId
  | computeFoundryId _ => .computeFoundryId
  | computeOutputId _ => .computeOutputId
  | buildOutput kind _ => .buildOutput kind
  | packOutput _ => .packOutput
  | unpackOutput _ => .unpackOutput
  | minimumStorageDeposit _ => .minimumStorageDeposit
  | protocolParameters _ => .protocolParameters
  | hexToBech32 _ => .hexToBech32
  | bech32ToHex _ => .bech32ToHex
  | error _ => .error

/-- The payload in JSON. -/
def payload : Response → Json
  | computeAliasId id => Wire.toJson id
  | computeNftId id => Wire.toJson id
  | computeFoundryId id => Wire.toJson id
  | computeOutputId id => Wire.toJson id
  | buildOutput _ o => Wire.toJson o
  | packOutput bytes => Json.ofBytes bytes
  | unpackOutput o => Wire.toJson o
  | minimumStorageDeposit amount => Wire.toJson amount
  | protocolParameters p => Wire.toJson p
  | hexToBech32 bech32 => .string bech32
  | bech32ToHex hex => .string hex
  | error e => Wire.toJson e

/-- The envelope. -/
def toJson (r : Response) : Json :=
  .object [("type", .string r.kind.name), ("payload", r.payload)]

/-- Reads packed bytes. -/
def readPacked (payload : Json) : Except EnvelopeError Bytes := do
  let text ← (Json.readString payload).mapError .json
  (Hex.decode text).mapError fun fault => .decoding (.invalidHex "packed output" fault)

/-- Reads the payload of a discriminator. -/
def ofPayload (kind : ResponseKind) (payload : Json) : Except EnvelopeError Response :=
  let read {α : Type} [Wire α] (make : α → Response) : Except EnvelopeError Response :=
    match Wire.ofJson payload with
    | .ok a => .ok (make a)
    | .error e => .error (.json e)
  match kind with
  | .computeAliasId => read computeAliasId
  | .computeNftId => read computeNftId
  | .computeFoundryId => read computeFoundryId
  | .computeOutputId => read computeOutputId
  | .buildOutput kind => read (buildOutput kind)
  | .packOutput => (readPacked payload).map packOutput
  | .unpackOutput => read unpackOutput
  | .minimumStorageDeposit => read minimumStorageDeposit
  | .protocolParameters => read protocolParameters
  | .hexToBech32 => read hexToBech32
  | .bech32ToHex => read bech32ToHex
  | .error => read error

/-- The fields of an envelope: discriminator and payload, null if absent. -/
def envelope : Json.Record (String × Json) :=
  open Json.Record in
  Prod.mk <$> required "type" <*> fieldOr (some .null) "payload" .ok

/-- Reads an envelope. -/
def ofEnvelope (j : Json) : Except EnvelopeError Response := do
  let (name, payload) ← (envelope.ofObjectOrArray j).mapError .json
  match ResponseKind.ofName? name with
  | some kind => ofPayload kind payload
  | none => throw (.unknownKind name payload)

instance : Wire Response where
  toJson := toJson
  ofJson j := (ofEnvelope j).mapError EnvelopeError.toJsonError

end Response

end UtxoCodec
