import UtxoCodec.Blake2b
import UtxoCodec.Output
import UtxoCodec.OutputId

/-!
# Derived identifiers

The identifier of an alias or NFT chain is the hash of the packed identifier of the output that began
it. That of a foundry is not hashed: it is the packed address of the controlling alias, the serial
number and the kind of the token scheme.
-/

namespace UtxoCodec

/-- The hash of the packed identifier of an output. -/
def hashOutputId (id : OutputId) : Bytes := Blake2b.digest256 id.bytes

/-- The alias that begins with an output. -/
def deriveAliasId (id : OutputId) : AliasId :=
  ⟨hashOutputId id, Blake2b.length_digest256 _⟩

/-- The NFT that begins with an output. -/
def deriveNftId (id : OutputId) : NftId :=
  ⟨hashOutputId id, Blake2b.length_digest256 _⟩

/-- The serial number as stored in identifiers. -/
def narrowSerialNumber (serialNumber : UInt64) : Except InputError UInt32 :=
  if serialNumber.toNat < UInt32.size then .ok (UInt32.ofNat serialNumber.toNat)
  else .error (.serialNumberOutOfRange serialNumber)

/-- The foundry with a serial number that an address controls. The address is checked first, then the
serial number, then the kind of the token scheme. -/
def deriveFoundryId (address : Address) (serialNumber : UInt64) (tokenSchemeKind : UInt8) :
    Except InputError FoundryId :=
  match address with
  | .alias id => do
    let narrow ← narrowSerialNumber serialNumber
    if tokenSchemeKind = TokenScheme.simpleKind then
      return FoundryId.build id narrow tokenSchemeKind
    else throw (.unknownTokenScheme tokenSchemeKind)
  | other => .error (.notAnAliasAddress other.kindName)

/-- The output of a transaction at a position in range. -/
def outputIdAt (transactionId : TransactionId) (index : UInt16) : Except InputError OutputId :=
  (OutputId.ofIndex transactionId index).mapError fun _ => .outputIndexOutOfRange index

/-- The identifier of a chain of outputs. -/
inductive ChainId where
  | «alias» (id : AliasId)
  | nft (id : NftId)
  | foundry (id : FoundryId)
  deriving DecidableEq

namespace ChainId

/-- The text of the identifier. -/
def text : ChainId → String
  | .alias id => id.text
  | .nft id => id.text
  | .foundry id => id.text

end ChainId

/-- The chain of an output that was created under an identifier. An alias or NFT output with the null
identifier is the first of its chain. -/
def deriveChainId (output : Output) (id : OutputId) : Except InputError ChainId :=
  match output with
  | .alias o => .ok (.alias (if o.aliasId.isNull then deriveAliasId id else o.aliasId))
  | .nft o => .ok (.nft (if o.nftId.isNull then deriveNftId id else o.nftId))
  | .foundry o =>
    match o.unlockConditions.immutableAlias? with
    | some address =>
      (deriveFoundryId address (UInt64.ofNat o.serialNumber.toNat) o.tokenScheme.kind).map .foundry
    | none => .error (.notAChainOutput "foundry without alias")
  | other => .error (.notAChainOutput other.kindName)

end UtxoCodec
