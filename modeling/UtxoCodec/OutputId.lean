import UtxoCodec.Identifier

/-!
# Output identifiers

An output is identified by the transaction that created it and its position among the outputs of the
transaction, at most 127. Output identifiers are ordered by transaction, then by position as a number.
-/

namespace UtxoCodec

/-- The identifier of an output. -/
structure OutputId where
  transactionId : TransactionId
  index : UInt16
  deriving DecidableEq

namespace OutputId

/-- The greatest position of an output. -/
def greatestIndex : Nat := 127

/-- The number of packed bytes. -/
def size : Nat := 34

/-- Checks the range of the position. -/
def verify (id : OutputId) : Except EncodingError Unit :=
  if id.index.toNat ≤ greatestIndex then .ok () else .error (.invalidOutputIndex id.index)

/-- The output identifier of a transaction and a position in range. -/
def ofIndex (transactionId : TransactionId) (index : UInt16) : Except EncodingError OutputId := do
  let id : OutputId := ⟨transactionId, index⟩
  id.verify
  return id

/-- The packed bytes. -/
def bytes (id : OutputId) : Bytes :=
  id.transactionId.bytes ++ Bytes.littleEndian 2 id.index.toNat

/-- The text of the packed bytes. -/
def text (id : OutputId) : String := Hex.encode id.bytes

/-- The text with the name of the type. -/
def typedText (id : OutputId) : String := s!"OutputId({id.text})"

instance : Packable OutputId where
  pack id := pack id.transactionId ++ Bytes.littleEndian 2 id.index.toNat
  unpack checking := do
    let transactionId ← unpack checking
    let id : OutputId := ⟨transactionId, UInt16.ofNat (← Unpacker.number 2)⟩
    checking.require id.verify
    return id
  verify := verify

/-- Reads the text of an output identifier. -/
def ofText (text : String) : Except DecodingError OutputId := do
  let ⟨bytes, _⟩ ← decodeExactHex "output id" size text
  unpackExact bytes

instance : Wire OutputId where
  toJson id := .string id.text
  ofJson j := do (ofText (← Json.readString j)).mapError .decoding

instance : Ord OutputId :=
  ⟨fun a b => (compare a.transactionId b.transactionId).then (compare a.index b.index)⟩

end OutputId

end UtxoCodec
