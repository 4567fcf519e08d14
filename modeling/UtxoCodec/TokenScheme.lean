import UtxoCodec.Unrecognized

/-!
# Token schemes

The scheme of a foundry says how its tokens are minted and melted. The simple scheme has a maximum
supply other than zero that the tokens in circulation do not exceed.
-/

namespace UtxoCodec

/-- A scheme with a maximum supply and explicit minting and melting. -/
structure SimpleTokenScheme where
  mintedTokens : BitVec 256
  meltedTokens : BitVec 256
  maximumSupply : BitVec 256
  deriving DecidableEq

namespace SimpleTokenScheme

/-- The tokens in circulation; none if more were melted than minted. -/
def circulatingSupply (s : SimpleTokenScheme) : BitVec 256 :=
  BitVec.ofNat 256 (s.mintedTokens.toNat - s.meltedTokens.toNat)

/-- Checks the supply. -/
def verify (s : SimpleTokenScheme) : Except EncodingError Unit :=
  if s.maximumSupply = 0 then .error (.invalidTokenScheme "maximum supply must not be zero")
  else if s.mintedTokens < s.meltedTokens then
    .error (.invalidTokenScheme "melted tokens exceed minted tokens")
  else if s.maximumSupply < s.circulatingSupply then
    .error (.invalidTokenScheme "circulating supply exceeds maximum supply")
  else .ok ()

/-- The scheme of a consistent supply. -/
def ofSupply (mintedTokens meltedTokens maximumSupply : BitVec 256) :
    Except EncodingError SimpleTokenScheme := do
  let s : SimpleTokenScheme := ⟨mintedTokens, meltedTokens, maximumSupply⟩
  s.verify
  return s

/-- The fields of the JSON form. -/
def record : Json.Record SimpleTokenScheme :=
  open Json.Record in
  mk <$> fieldOr none "mintedTokens" Json.readWord256
    <*> fieldOr none "meltedTokens" Json.readWord256
    <*> fieldOr none "maximumSupply" Json.readWord256

/-- The fields in JSON. -/
def fields (s : SimpleTokenScheme) : List Json.Field :=
  [("mintedTokens", Json.ofWord256 s.mintedTokens), ("meltedTokens", Json.ofWord256 s.meltedTokens),
    ("maximumSupply", Json.ofWord256 s.maximumSupply)]

instance : Wire SimpleTokenScheme where
  toJson s := .object s.fields
  ofJson := record.ofObjectOrArray

end SimpleTokenScheme

/-- The token scheme of a foundry. -/
inductive TokenScheme where
  | simple (scheme : SimpleTokenScheme)
  | unknown (element : Unrecognized)
  deriving DecidableEq

namespace TokenScheme

/-- The kind of the simple scheme. -/
def simpleKind : UInt8 := 0

/-- The kind byte. -/
def kind : TokenScheme → UInt8
  | simple _ => simpleKind
  | unknown u => u.kind

/-- Checks that the scheme is known and consistent. -/
def verify : TokenScheme → Except EncodingError Unit
  | simple s => s.verify
  | unknown u => .error (.unrecognizedKind "token scheme" u.kind)

instance : Packable TokenScheme where
  pack
    | simple s =>
      simpleKind :: packWord256 s.mintedTokens ++ packWord256 s.meltedTokens ++
        packWord256 s.maximumSupply
    | unknown u => u.pack
  unpack checking := do
    let kind ← Unpacker.byte
    if kind = simpleKind then
      let mintedTokens ← Unpacker.word256
      let meltedTokens ← Unpacker.word256
      let s : SimpleTokenScheme := ⟨mintedTokens, meltedTokens, ← Unpacker.word256⟩
      checking.require s.verify
      return simple s
    else Unpacker.unknownKind "token scheme" kind
  verify := verify

instance : Wire TokenScheme where
  toJson
    | simple s => (Json.Tagged.mk simpleKind s.fields).toJson
    | unknown u => u.toJson
  ofJson j := do
    let t ← Json.Tagged.ofJson "token scheme" j
    if t.kind = simpleKind then return simple (← SimpleTokenScheme.record.ofFields t.fields)
    else return unknown (.ofTagged t)

end TokenScheme

end UtxoCodec
