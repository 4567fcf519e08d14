import UtxoCodec.Output.Chain
import UtxoCodec.Output.Transfer

/-!
# Outputs

The sum of the output kinds. An output that holds anything unrecognized keeps its body as bytes
(an opaque output), so that it is packed again byte for byte. A body is opaque only if its kind is not
known or the strict reader meets an unknown kind in it; an opaque output cannot hide a readable one.
-/

namespace UtxoCodec

/-- An output. -/
inductive Output where
  | treasury (output : TreasuryOutput)
  | basic (output : BasicOutput)
  | «alias» (output : AliasOutput)
  | foundry (output : FoundryOutput)
  | nft (output : NftOutput)
  | unknown (element : Unrecognized)
  deriving DecidableEq

namespace Output

/-- The kind byte. -/
def kind : Output → UInt8
  | .treasury _ => TreasuryOutput.kind
  | .basic _ => BasicOutput.kind
  | .alias _ => AliasOutput.kind
  | .foundry _ => FoundryOutput.kind
  | .nft _ => NftOutput.kind
  | .unknown u => u.kind

/-- The name of the kind. -/
def kindName : Output → String
  | .treasury _ => "treasury"
  | .basic _ => "basic"
  | .alias _ => "alias"
  | .foundry _ => "foundry"
  | .nft _ => "nft"
  | .unknown _ => "unknown"

/-- The amount of base tokens of an output of a known kind. -/
def amount? : Output → Option Amount
  | .treasury o => some o.amount
  | .basic o => some o.amount
  | .alias o => some o.amount
  | .foundry o => some o.amount
  | .nft o => some o.amount
  | .unknown _ => none

/-- The output with another amount, if its kind is known. -/
def withAmount (amount : Amount) : Output → Output
  | .treasury o => .treasury { o with amount }
  | .basic o => .basic { o with amount }
  | .alias o => .alias { o with amount }
  | .foundry o => .foundry { o with amount }
  | .nft o => .nft { o with amount }
  | .unknown u => .unknown u

/-- Whether a kind is known. -/
def isKnownKind (kind : UInt8) : Bool :=
  kind = TreasuryOutput.kind || kind = BasicOutput.kind || kind = AliasOutput.kind ||
    kind = FoundryOutput.kind || kind = NftOutput.kind

/-- The binary form: the kind byte and the body. -/
def pack : Output → Bytes
  | .treasury o => TreasuryOutput.kind :: Packable.pack o
  | .basic o => BasicOutput.kind :: Packable.pack o
  | .alias o => AliasOutput.kind :: Packable.pack o
  | .foundry o => FoundryOutput.kind :: Packable.pack o
  | .nft o => NftOutput.kind :: Packable.pack o
  | .unknown u => u.pack

/-- Reads an output of a known kind. -/
def unpack (checking : Checking) : Unpacker Output := do
  let kind ← Unpacker.byte
  if kind = TreasuryOutput.kind then return .treasury (← Packable.unpack checking)
  else if kind = BasicOutput.kind then return .basic (← Packable.unpack checking)
  else if kind = AliasOutput.kind then return .alias (← Packable.unpack checking)
  else if kind = FoundryOutput.kind then return .foundry (← Packable.unpack checking)
  else if kind = NftOutput.kind then return .nft (← Packable.unpack checking)
  else Unpacker.unknownKind "output" kind

/-- Strictly reads an output of a known kind that spans the input. -/
def unpackKnown (input : Bytes) : Except DecodingError Output :=
  (unpack .strict).exactly (fun o => o.pack.length) input

/-- Checks that a body of a kind may be kept as bytes. -/
def verifyOpaque (kind : UInt8) (body : Bytes) : Except EncodingError Unit :=
  if isKnownKind kind then
    match unpackKnown (kind :: body) with
    | .error (.unknownKind _ _) => .ok ()
    | _ => .error (.invalidOpaqueBody kind)
  else .ok ()

/-- Checks the rules of the output's kind. -/
def verify : Output → Except EncodingError Unit
  | .treasury o => Packable.verify o
  | .basic o => o.verify
  | .alias o => o.verify
  | .foundry o => o.verify
  | .nft o => o.verify
  | .unknown u =>
    match u.body with
    | .packed body => verifyOpaque u.kind body
    | .fields _ => .error (.unrecognizedKind "output" u.kind)

instance : Packable Output := ⟨pack, unpack, verify⟩

/-- Checks the output and packs it. -/
def encode (o : Output) : Except EncodingError Bytes := do
  o.verify
  return o.pack

/-- Reads an output that spans the input. Where a kind is not known, the output is kept opaque. -/
def decode (input : Bytes) : Except DecodingError Output :=
  match unpackKnown input, input with
  | .error (.unknownKind _ _), kind :: body => .ok (.unknown ⟨kind, .packed body⟩)
  | result, _ => result

/-- The JSON form. -/
def toJson (o : Output) : Json :=
  let tagged (fields : List Json.Field) := (Json.Tagged.mk o.kind fields).toJson
  match o with
  | .treasury o => tagged o.fields
  | .basic o => tagged o.fields
  | .alias o => tagged o.fields
  | .foundry o => tagged o.fields
  | .nft o => tagged o.fields
  | .unknown u => u.toJson

/-- Reads an opaque body of a kind. No other field may stand beside it. -/
def ofOpaque (kind : UInt8) (body : Json) (others : List Json.Field) : Except JsonError Output := do
  if let (name, _) :: _ := others then throw (.opaqueWithField name)
  match body with
  | .string text =>
    let bytes ← (Hex.decode text).mapError .opaqueBytes
    (verifyOpaque kind bytes).mapError .encoding
    return .unknown ⟨kind, .packed bytes⟩
  | _ => throw .opaqueNotText

/-- Reads the fields behind the kind. -/
def ofTagged (t : Json.Tagged) : Except JsonError Output :=
  match Json.find? t.fields "opaque" with
  | some body => ofOpaque t.kind body (Json.erase t.fields "opaque")
  | none =>
    if t.kind = TreasuryOutput.kind then
      (TreasuryOutput.record.ofFieldsOnly t.fields).map .treasury
    else if t.kind = BasicOutput.kind then (BasicOutput.record.ofFieldsOnly t.fields).map .basic
    else if t.kind = AliasOutput.kind then (AliasOutput.record.ofFieldsOnly t.fields).map .alias
    else if t.kind = FoundryOutput.kind then
      (FoundryOutput.record.ofFieldsOnly t.fields).map .foundry
    else if t.kind = NftOutput.kind then (NftOutput.record.ofFieldsOnly t.fields).map .nft
    else .ok (.unknown (.ofTagged t))

instance : Wire Output where
  toJson := toJson
  ofJson j := do ofTagged (← Json.Tagged.ofJson "output" j)

end Output

end UtxoCodec
