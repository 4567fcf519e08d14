import UtxoCodec.Identifier
import UtxoCodec.Bech32

/-!
# Addresses

An address is that of an Ed25519 key pair, an alias or an NFT. Its binary form is a kind byte and 32
bytes. Addresses are ordered by kind, then by bytes. Every other kind is an error, also in JSON.
-/

namespace UtxoCodec

/-- An address that can own outputs. -/
inductive Address where
  | ed25519 (hash : Ed25519Address)
  | «alias» (id : AliasId)
  | nft (id : NftId)
  deriving DecidableEq

namespace Address

/-- The kind byte. -/
def kind : Address → UInt8
  | .ed25519 _ => 0
  | .alias _ => 8
  | .nft _ => 16

/-- The name of the kind. -/
def kindName : Address → String
  | .ed25519 _ => "ed25519"
  | .alias _ => "alias"
  | .nft _ => "nft"

/-- The bytes behind the kind. -/
def idBytes : Address → Bytes
  | .ed25519 hash => hash.bytes
  | .alias id => id.bytes
  | .nft id => id.bytes

/-- The text of the identifier that the address holds. -/
def idText (a : Address) : String := Hex.encode a.idBytes

instance : Packable Address where
  pack a := a.kind :: a.idBytes
  unpack checking := do
    let kind ← Unpacker.byte
    if kind = 0 then return .ed25519 (← unpack checking)
    else if kind = 8 then return .alias (← unpack checking)
    else if kind = 16 then return .nft (← unpack checking)
    else Unpacker.unknownKind "address" kind

/-- The rank of the kind in the order of addresses. -/
def rank : Address → Nat
  | .ed25519 _ => 0
  | .alias _ => 1
  | .nft _ => 2

instance : Ord Address :=
  ⟨fun a b => (compare a.rank b.rank).then (compare a.idBytes b.idBytes)⟩

/-- The fields of the JSON form behind the kind. -/
def fields : Address → List Json.Field
  | .ed25519 hash => [("pubKeyHash", Wire.toJson hash)]
  | .alias id => [("aliasId", Wire.toJson id)]
  | .nft id => [("nftId", Wire.toJson id)]

/-- Reads the fields behind the kind. -/
def ofTagged (t : Json.Tagged) : Except JsonError Address :=
  open Json.Record in
  if t.kind = 0 then (Address.ed25519 <$> required "pubKeyHash").ofFields t.fields
  else if t.kind = 8 then (Address.alias <$> required "aliasId").ofFields t.fields
  else if t.kind = 16 then (Address.nft <$> required "nftId").ofFields t.fields
  else .error (.unknownAddressKind t.kind)

instance : Wire Address where
  toJson a := (Json.Tagged.mk a.kind a.fields).toJson
  ofJson j := do ofTagged (← Json.Tagged.ofJson "address" j)

/-- The bech32 text of the packed address. -/
def toBech32 (a : Address) (readable : String) : Except EncodingError String :=
  (Bech32.encode readable (pack a)).mapError .bech32

/-- The readable part and the address of a bech32 text. -/
def ofBech32 (text : String) : Except DecodingError (String × Address) := do
  let (readable, bytes) ← (Bech32.decode text).mapError fun fault => .invalid (.bech32 fault)
  return (readable, ← unpackExact bytes)

end Address

end UtxoCodec
