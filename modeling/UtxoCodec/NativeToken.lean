import UtxoCodec.Identifier

/-!
# Native tokens

An output carries amounts of user defined tokens, each identified by the foundry that controls its
supply: at most 64, without zero amounts, strictly increasing by identifier.
-/

namespace UtxoCodec

/-- An amount of a user defined token. -/
structure NativeToken where
  id : FoundryId
  amount : BitVec 256
  deriving DecidableEq

namespace NativeToken

/-- Checks that the amount is not zero. -/
def verify (t : NativeToken) : Except EncodingError Unit :=
  if t.amount = 0 then .error .nullNativeTokenAmount else .ok ()

/-- The token of an amount other than zero. -/
def ofAmount (id : FoundryId) (amount : BitVec 256) : Except EncodingError NativeToken := do
  let t : NativeToken := ⟨id, amount⟩
  t.verify
  return t

instance : Packable NativeToken where
  pack t := t.id.bytes ++ packWord256 t.amount
  unpack checking := do
    let id ← unpack checking
    let t : NativeToken := ⟨id, ← Unpacker.word256⟩
    checking.require t.verify
    return t
  verify := verify

/-- The fields of the JSON form. -/
def record : Json.Record NativeToken :=
  open Json.Record in
  mk <$> required "id" <*> fieldOr none "amount" Json.readWord256

instance : Wire NativeToken where
  toJson t := .object [("id", Wire.toJson t.id), ("amount", Json.ofWord256 t.amount)]
  ofJson := record.ofObjectOrArray

end NativeToken

/-- The native tokens of an output. -/
structure NativeTokens where
  items : List NativeToken
  deriving DecidableEq

namespace NativeTokens

/-- The greatest number of native tokens. -/
def greatestCount : Nat := 64

/-- No native tokens. -/
def empty : NativeTokens := ⟨[]⟩

/-- Checks that identifiers strictly increase. -/
def verifyOrder : List NativeToken → Except EncodingError Unit
  | a :: b :: rest =>
    match compare a.id b.id with
    | .eq => .error (.duplicate "native token" a.id.text)
    | .gt => .error (.unsorted "native tokens")
    | .lt => verifyOrder (b :: rest)
  | _ => .ok ()

/-- Checks the count, the amounts and the order. -/
def verify (ts : NativeTokens) : Except EncodingError Unit := do
  if greatestCount < ts.items.length then
    throw (.invalidCount "native tokens" ts.items.length greatestCount)
  verifyAll NativeToken.verify ts.items
  verifyOrder ts.items

/-- Sorts tokens by identifier and checks them. -/
def ofList (tokens : List NativeToken) : Except EncodingError NativeTokens := do
  let ts : NativeTokens := ⟨tokens.mergeSort fun a b => (compare a.id b.id).isLE⟩
  ts.verify
  return ts

instance : Packable NativeTokens where
  pack ts := packCounted pack ts.items
  unpack checking := do
    let items ← Unpacker.counted checking "native tokens" greatestCount (unpack checking)
    let ts : NativeTokens := ⟨items⟩
    checking.require ts.verify
    return ts
  verify := verify

instance : Wire NativeTokens where
  toJson ts := Wire.toJson ts.items
  ofJson j := do (ofList (← Wire.ofJson j)).mapError .encoding

end NativeTokens

end UtxoCodec
