import UtxoCodec.Packing
import UtxoCodec.Json.Record

/-!
# Identifiers

An identifier is a byte string of the length of its kind. Its text is prefixed hexadecimal, its binary
form the bytes themselves, and its order that of the bytes. Kinds are distinct types.
-/

namespace UtxoCodec

/-- What an identifier identifies. -/
inductive IdKind where
  | transaction
  | milestone
  | «alias»
  | nft
  | foundry
  | ed25519
  deriving DecidableEq, Repr

namespace IdKind

/-- The number of bytes. -/
def size : IdKind → Nat
  | .foundry => 38
  | _ => 32

/-- The name of the kind in error texts. -/
def label : IdKind → String
  | .transaction => "transaction id"
  | .milestone => "milestone id"
  | .alias => "alias id"
  | .nft => "nft id"
  | .foundry => "foundry id"
  | .ed25519 => "ed25519 address"

/-- The name of the type. -/
def typeName : IdKind → String
  | .transaction => "TransactionId"
  | .milestone => "MilestoneId"
  | .alias => "AliasId"
  | .nft => "NftId"
  | .foundry => "FoundryId"
  | .ed25519 => "Ed25519Address"

end IdKind

/-- An identifier of a kind. -/
structure Identifier (kind : IdKind) where
  bytes : Bytes
  length_eq : bytes.length = kind.size
  deriving DecidableEq

/-- The hash of a transaction essence. -/
abbrev TransactionId := Identifier .transaction
/-- The hash of a milestone essence. -/
abbrev MilestoneId := Identifier .milestone
/-- The identifier of an alias chain. The null identifier stands for one still to be derived. -/
abbrev AliasId := Identifier .alias
/-- The identifier of an NFT chain. The null identifier stands for one still to be derived. -/
abbrev NftId := Identifier .nft
/-- The identifier of a foundry and of the native token that it controls. -/
abbrev FoundryId := Identifier .foundry
/-- The hash of an Ed25519 public key. -/
abbrev Ed25519Address := Identifier .ed25519

/-- Reads prefixed hexadecimal text of an exact number of bytes. -/
def decodeExactHex (what : String) (size : Nat) (text : String) :
    Except DecodingError { b : Bytes // b.length = size } := do
  let bytes ← (Hex.decode text).mapError (.invalidHex what)
  if h : bytes.length = size then return ⟨bytes, h⟩
  else throw (.invalidIdLength what size bytes.length)

namespace Identifier

variable {kind : IdKind}

/-- The identifier of zeros. -/
def null : Identifier kind := ⟨List.replicate kind.size 0, by simp⟩

/-- Whether every byte is zero. -/
def isNull (id : Identifier kind) : Bool := id.bytes.all (· == 0)

/-- The text of an identifier. -/
def text (id : Identifier kind) : String := Hex.encode id.bytes

/-- Reads the text of an identifier. -/
def ofText (text : String) : Except DecodingError (Identifier kind) := do
  let ⟨bytes, h⟩ ← decodeExactHex kind.label kind.size text
  return ⟨bytes, h⟩

/-- The text with the name of the type. -/
def typedText (id : Identifier kind) : String := s!"{kind.typeName}({id.text})"

instance : Packable (Identifier kind) where
  pack id := id.bytes
  unpack _ := do
    let ⟨bytes, h⟩ ← Unpacker.take kind.size
    return ⟨bytes, h⟩

instance : Wire (Identifier kind) where
  toJson id := .string id.text
  ofJson j := do (ofText (← Json.readString j)).mapError .decoding

instance : Ord (Identifier kind) := ⟨fun a b => compare a.bytes b.bytes⟩

end Identifier

namespace FoundryId

/-- The identifier of the foundry with a serial number that an alias controls: the packed address of
the alias, the serial number and the kind of the token scheme. -/
def build (controller : AliasId) (serialNumber : UInt32) (tokenSchemeKind : UInt8) : FoundryId :=
  ⟨8 :: controller.bytes ++ Bytes.littleEndian 4 serialNumber.toNat ++ [tokenSchemeKind], by
    simp [controller.length_eq, IdKind.size]⟩

/-- The alias that controls the foundry. -/
def aliasId (id : FoundryId) : AliasId :=
  ⟨(id.bytes.drop 1).take 32, by simp [id.length_eq, IdKind.size]⟩

/-- The serial number of the foundry. -/
def serialNumber (id : FoundryId) : UInt32 :=
  UInt32.ofNat (Bytes.value ((id.bytes.drop 33).take 4))

/-- The kind of the token scheme. -/
def tokenSchemeKind (id : FoundryId) : UInt8 := id.bytes.getD 37 0

end FoundryId

end UtxoCodec
