import UtxoCodec.Blake2b
import UtxoCodec.Json.Parser
import UtxoCodec.Output
import UtxoCodec.OutputId

/-!
# Protocol parameters

The parameters of a network, with the prices that give the storage deposit of an output. Fields of
newer protocol versions are kept as they are, in both records.
-/

namespace UtxoCodec

/-- The prices of the storage that an output takes up. -/
structure RentStructure where
  byteCost : UInt32
  factorData : UInt8
  factorKey : UInt8
  extra : List Json.Field
  deriving DecidableEq

namespace RentStructure

/-- The bytes stored as key beside an output: its identifier. -/
def keyBytes : Nat := OutputId.size

/-- The bytes stored as data beside an output: block identifier, milestone index and timestamp. -/
def dataBytes : Nat := 32 + 4 + 4

/-- A number, if it fits 64 bits. -/
def checked (n : Nat) : Except EncodingError Nat :=
  if n < UInt64.size then .ok n else .error .rentOverflow

/-- The least amount of base tokens that an output has to carry for its storage. -/
def rentCost (r : RentStructure) (o : Output) : Except EncodingError UInt64 := do
  o.verify
  let body ← checked (packedLength o * r.factorData.toNat)
  let withKey ← checked (body + keyBytes * r.factorKey.toNat)
  let weighted ← checked (withKey + dataBytes * r.factorData.toNat)
  return UInt64.ofNat (← checked (weighted * r.byteCost.toNat))

/-- The fields of the JSON form, without others. -/
def record : Json.Record (List Json.Field → RentStructure) :=
  open Json.Record in
  mk <$> required "vByteCost" <*> required "vByteFactorData" <*> required "vByteFactorKey"

instance : Wire RentStructure where
  toJson r := .object
    (("vByteCost", Wire.toJson r.byteCost) :: ("vByteFactorData", Wire.toJson r.factorData) ::
      ("vByteFactorKey", Wire.toJson r.factorKey) :: r.extra)
  ofJson
    | .object fields => do return (← record.ofFields fields) (record.others fields)
    | _ => .error .invalidType

end RentStructure

/-- The parameters of a network. -/
structure ProtocolParameters where
  version : UInt8
  networkName : String
  bech32Hrp : String
  minPowScore : UInt32
  belowMaxDepth : UInt8
  rentStructure : RentStructure
  tokenSupply : Amount
  extra : List Json.Field
  deriving DecidableEq

namespace ProtocolParameters

/-- The parameters of the Shimmer network. -/
def shimmer : ProtocolParameters where
  version := 2
  networkName := "shimmer"
  bech32Hrp := "smr"
  minPowScore := 1500
  belowMaxDepth := 15
  rentStructure := ⟨100, 1, 10, []⟩
  tokenSupply := ⟨1813620509061365⟩
  extra := []

/-- The network identifier: the first eight bytes of the hash of the network name. -/
def networkId (p : ProtocolParameters) : UInt64 :=
  UInt64.ofNat
    (Bytes.value ((Blake2b.digest256 (Bytes.ofChars p.networkName.toList)).take 8))

/-- Checks that an amount is within one and the token supply. An amount beyond 64 bits is not; a
supply beyond 64 bits is an error of its own. -/
def verifyAmount (p : ProtocolParameters) (amount : Amount) : Except EncodingError UInt64 := do
  let outside := EncodingError.amountNotInSupply amount.value p.tokenSupply.value
  let value ← amount.toUInt64.mapError fun _ => outside
  let supply ← p.tokenSupply.toUInt64
  if 1 ≤ value ∧ value ≤ supply then return value else throw outside

/-- The fields of the JSON form, without others. -/
def record : Json.Record (List Json.Field → ProtocolParameters) :=
  open Json.Record in
  mk <$> required "version" <*> required "networkName" <*> required "bech32Hrp"
    <*> required "minPowScore" <*> required "belowMaxDepth" <*> required "rentStructure"
    <*> required "tokenSupply"

instance : Wire ProtocolParameters where
  toJson p := .object
    (("version", Wire.toJson p.version) :: ("networkName", .string p.networkName) ::
      ("bech32Hrp", .string p.bech32Hrp) :: ("minPowScore", Wire.toJson p.minPowScore) ::
      ("belowMaxDepth", Wire.toJson p.belowMaxDepth) ::
      ("rentStructure", Wire.toJson p.rentStructure) ::
      ("tokenSupply", Wire.toJson p.tokenSupply) :: p.extra)
  ofJson
    | .object fields => do return (← record.ofFields fields) (record.others fields)
    | _ => .error .invalidType

/-- Reads the parameters from a file. A known field may not be repeated there. -/
def ofText (text : String) : Except JsonError ProtocolParameters := do
  let some entries := Json.parseEntries? text | throw .notJson
  refuseRepeated record.names entries
  if let .object fields := entries then
    for (key, value) in fields do
      if key = "rentStructure" then refuseRepeated RentStructure.record.names value
  Wire.ofJson entries.sorted
where
  /-- Fails if an object has one of the named fields twice. -/
  refuseRepeated (names : List String) : Json → Except JsonError Unit
    | .object fields =>
      names.forM fun name =>
        if 1 < fields.countP (·.1 == name) then throw (.repeatedField name) else pure ()
    | _ => pure ()

end ProtocolParameters

end UtxoCodec
