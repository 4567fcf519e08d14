import UtxoCodec.Draft

/-!
# Messages

A message asks for one operation: an object with the name of the operation and its arguments as `data`,
or an array of the two. Only the operation without arguments may come without data.
-/

namespace UtxoCodec

/-- The operations that can be asked for. -/
inductive Operation where
  | computeAliasId
  | computeNftId
  | computeFoundryId
  | computeOutputId
  | buildBasicOutput
  | buildAliasOutput
  | buildFoundryOutput
  | buildNftOutput
  | packOutput
  | unpackOutput
  | minimumStorageDeposit
  | getProtocolParameters
  | setProtocolParameters
  | hexToBech32
  | bech32ToHex
  deriving DecidableEq, Repr

namespace Operation

/-- Every operation. -/
def all : List Operation :=
  [computeAliasId, computeNftId, computeFoundryId, computeOutputId, buildBasicOutput,
    buildAliasOutput, buildFoundryOutput, buildNftOutput, packOutput, unpackOutput,
    minimumStorageDeposit, getProtocolParameters, setProtocolParameters, hexToBech32, bech32ToHex]

/-- The name of the operation. -/
def name : Operation → String
  | computeAliasId => "computeAliasId"
  | computeNftId => "computeNftId"
  | computeFoundryId => "computeFoundryId"
  | computeOutputId => "computeOutputId"
  | buildBasicOutput => "buildBasicOutput"
  | buildAliasOutput => "buildAliasOutput"
  | buildFoundryOutput => "buildFoundryOutput"
  | buildNftOutput => "buildNftOutput"
  | packOutput => "packOutput"
  | unpackOutput => "unpackOutput"
  | minimumStorageDeposit => "minimumStorageDeposit"
  | getProtocolParameters => "getProtocolParameters"
  | setProtocolParameters => "setProtocolParameters"
  | hexToBech32 => "hexToBech32"
  | bech32ToHex => "bech32ToHex"

/-- The operation with a name. -/
def ofName? (name : String) : Option Operation := all.find? (·.name == name)

/-- The operation with a name, or an error. -/
def named (name : String) : Except JsonError Operation :=
  match ofName? name with
  | some operation => .ok operation
  | none => .error (.unknownName name)

/-- Reads the name of an operation that is the first item of an array: a string. -/
def ofItem : Json → Except JsonError Operation
  | .string name => named name
  | _ => .error .invalidType

/-- Reads the name of an operation that is a field: a string, or an object whose only field has the
name as key and null as value. -/
def ofField : Json → Except JsonError Operation
  | .object [(name, value)] => do
    let operation ← named name
    if value = .null then return operation else throw .invalidType
  | .object _ => .error .invalidValue
  | item => ofItem item

end Operation

/-- A request for an operation, with its arguments. -/
inductive Message where
  | computeAliasId (outputId : OutputId)
  | computeNftId (outputId : OutputId)
  | computeFoundryId (aliasAddress : Address) (serialNumber : UInt64) (tokenSchemeKind : UInt8)
  | computeOutputId (transactionId : TransactionId) (outputIndex : UInt16)
  /-- Finishes a draft; the operation is that of its kind. -/
  | buildOutput (draft : Draft)
  | packOutput (output : Output)
  | unpackOutput (bytes : Bytes)
  | minimumStorageDeposit (output : Output)
  | getProtocolParameters
  | setProtocolParameters (parameters : ProtocolParameters)
  /-- The bech32 text of an Ed25519 address; without a readable part that of the network is used. -/
  | hexToBech32 (hex : String) (bech32Hrp : Option String)
  | bech32ToHex (bech32 : String)
  deriving DecidableEq

namespace Message

/-- The operation that finishes a draft. -/
def buildOperation : DraftKind → Operation
  | .basic => .buildBasicOutput
  | .alias => .buildAliasOutput
  | .foundry => .buildFoundryOutput
  | .nft => .buildNftOutput

/-- The operation asked for. -/
def operation : Message → Operation
  | computeAliasId _ => .computeAliasId
  | computeNftId _ => .computeNftId
  | computeFoundryId .. => .computeFoundryId
  | computeOutputId .. => .computeOutputId
  | buildOutput draft => buildOperation draft.kind
  | packOutput _ => .packOutput
  | unpackOutput _ => .unpackOutput
  | minimumStorageDeposit _ => .minimumStorageDeposit
  | getProtocolParameters => .getProtocolParameters
  | setProtocolParameters _ => .setProtocolParameters
  | hexToBech32 .. => .hexToBech32
  | bech32ToHex _ => .bech32ToHex

/-- The arguments in JSON, if there are any. -/
def data? : Message → Option Json
  | computeAliasId id | computeNftId id => some (.object [("outputId", Wire.toJson id)])
  | computeFoundryId address serialNumber kind =>
    some (.object
      [("aliasAddress", Wire.toJson address), ("serialNumber", Wire.toJson serialNumber),
        ("tokenSchemeKind", Wire.toJson kind)])
  | computeOutputId transactionId index =>
    some (.object [("transactionId", Wire.toJson transactionId), ("outputIndex", Wire.toJson index)])
  | buildOutput draft => some draft.toJson
  | packOutput o | minimumStorageDeposit o => some (.object [("output", Wire.toJson o)])
  | unpackOutput bytes => some (.object [("bytes", Json.ofBytes bytes)])
  | getProtocolParameters => none
  | setProtocolParameters p => some (Wire.toJson p)
  | hexToBech32 hex hrp =>
    some (.object (("hex", .string hex) :: Json.optionalField "bech32Hrp" Json.string hrp))
  | bech32ToHex bech32 => some (.object [("bech32", .string bech32)])

/-- Reads the arguments of an operation. -/
def ofData (operation : Operation) (data : Json) : Except JsonError Message :=
  open Json.Record in
  let build (kind : DraftKind) := (Draft.ofJson kind data).map buildOutput
  match operation with
  | .computeAliasId => (computeAliasId <$> required "outputId").ofObject data
  | .computeNftId => (computeNftId <$> required "outputId").ofObject data
  | .computeFoundryId =>
    (computeFoundryId <$> required "aliasAddress" <*> required "serialNumber"
      <*> required "tokenSchemeKind").ofObject data
  | .computeOutputId =>
    (computeOutputId <$> required "transactionId" <*> required "outputIndex").ofObject data
  | .buildBasicOutput => build .basic
  | .buildAliasOutput => build .alias
  | .buildFoundryOutput => build .foundry
  | .buildNftOutput => build .nft
  | .packOutput => (packOutput <$> required "output").ofObject data
  | .unpackOutput => (unpackOutput <$> fieldOr none "bytes" Json.readBytes).ofObject data
  | .minimumStorageDeposit => (minimumStorageDeposit <$> required "output").ofObject data
  | .getProtocolParameters => if data = .null then .ok getProtocolParameters else .error .invalidType
  | .setProtocolParameters => (Wire.ofJson data).map setProtocolParameters
  | .hexToBech32 => (hexToBech32 <$> required "hex" <*> optional "bech32Hrp").ofObject data
  | .bech32ToHex => (bech32ToHex <$> required "bech32").ofObject data

/-- The message of an operation that came without data. -/
def ofAbsentData : Operation → Except JsonError Message
  | .getProtocolParameters => .ok getProtocolParameters
  | _ => .error (.missingField "data")

/-- Reads a message. -/
def ofJson : Json → Except JsonError Message
  | .object fields =>
    match Json.find? fields "name" with
    | none => .error (.missingField "name")
    | some name => do
      let operation ← Operation.ofField name
      match Json.find? fields "data" with
      | some data => ofData operation data
      | none => ofAbsentData operation
  | .array items => do
    let name :: rest := items | throw .invalidLength
    let operation ← Operation.ofItem name
    let data :: rest := rest | throw .invalidLength
    let message ← ofData operation data
    if rest.isEmpty then return message else throw .invalidLength
  | _ => .error .invalidType

instance : Wire Message where
  toJson m :=
    .object (("name", .string m.operation.name) :: Json.optionalField "data" id m.data?)
  ofJson := ofJson

end Message

end UtxoCodec
