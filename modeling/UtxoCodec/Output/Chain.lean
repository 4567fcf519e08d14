import UtxoCodec.NativeToken
import UtxoCodec.Output.Rules
import UtxoCodec.TokenScheme

/-!
# Outputs of a chain

Alias, foundry and NFT outputs continue a chain of outputs under one identifier. Besides features that
may change from output to output they have immutable ones.
-/

namespace UtxoCodec

/-- The state of an alias. -/
structure AliasOutput where
  amount : Amount
  nativeTokens : NativeTokens
  aliasId : AliasId
  stateIndex : UInt32
  stateMetadata : Bytes
  foundryCounter : UInt32
  unlockConditions : UnlockConditions
  features : Features
  immutableFeatures : Features
  deriving DecidableEq

/-- A foundry and the supply of the token that it controls. -/
structure FoundryOutput where
  amount : Amount
  nativeTokens : NativeTokens
  serialNumber : UInt32
  tokenScheme : TokenScheme
  unlockConditions : UnlockConditions
  features : Features
  immutableFeatures : Features
  deriving DecidableEq

/-- An NFT. -/
structure NftOutput where
  amount : Amount
  nativeTokens : NativeTokens
  nftId : NftId
  unlockConditions : UnlockConditions
  features : Features
  immutableFeatures : Features
  deriving DecidableEq

/-- A 32-bit number. -/
def unpackWord32 : Unpacker UInt32 := do
  return UInt32.ofNat (← Unpacker.number 4)

namespace AliasOutput

/-- The kind byte. -/
def kind : UInt8 := 4

/-- The greatest length of state metadata. -/
def greatestMetadata : Nat := 8192

/-- A state controller and a governor are required. -/
def rules : OutputRules where
  name := "alias"
  requiredConditions := [4, 5]
  allowedConditions := [4, 5]
  allowedFeatures := [0, 2]
  allowedImmutableFeatures := [1, 2]

/-- Checks the output. -/
def verify (o : AliasOutput) : Except EncodingError Unit := do
  o.amount.verify
  o.nativeTokens.verify
  if greatestMetadata < o.stateMetadata.length then
    throw (.invalidLength "state metadata" o.stateMetadata.length 0 greatestMetadata)
  rules.verify o.unlockConditions o.features o.immutableFeatures

instance : Packable AliasOutput where
  pack o :=
    pack o.amount ++ pack o.nativeTokens ++ pack o.aliasId ++
      Bytes.littleEndian 4 o.stateIndex.toNat ++ packSized 2 o.stateMetadata ++
      Bytes.littleEndian 4 o.foundryCounter.toNat ++ pack o.unlockConditions ++
      pack o.features ++ pack o.immutableFeatures
  unpack checking := do
    let amount ← unpack checking
    let nativeTokens ← unpack checking
    let aliasId ← unpack checking
    let stateIndex ← unpackWord32
    let stateMetadata ← Unpacker.sized checking "state metadata" 2 0 greatestMetadata
    let foundryCounter ← unpackWord32
    let unlockConditions ← unpack checking
    let features ← unpack checking
    let immutableFeatures ← unpack checking
    let o : AliasOutput :=
      { amount, nativeTokens, aliasId, stateIndex, stateMetadata, foundryCounter,
        unlockConditions, features, immutableFeatures }
    checking.require o.verify
    return o
  verify := verify

/-- The fields of the JSON form. -/
def record : Json.Record AliasOutput :=
  open Json.Record in
  mk <$> required "amount" <*> withDefault "nativeTokens" .empty <*> required "aliasId"
    <*> required "stateIndex" <*> fieldOr (some []) "stateMetadata" Json.readBytes
    <*> required "foundryCounter" <*> required "unlockConditions"
    <*> withDefault "features" .empty <*> withDefault "immutableFeatures" .empty

/-- The fields in JSON; empty lists and metadata are left out, but for the unlock conditions. -/
def fields (o : AliasOutput) : List Json.Field :=
  ("amount", Wire.toJson o.amount) ::
    Json.nonemptyField "nativeTokens" Wire.toJson o.nativeTokens.items ++
    ("aliasId", Wire.toJson o.aliasId) :: ("stateIndex", Wire.toJson o.stateIndex) ::
    Json.nonemptyField "stateMetadata" Json.ofBytes o.stateMetadata ++
    ("foundryCounter", Wire.toJson o.foundryCounter) ::
    ("unlockConditions", Wire.toJson o.unlockConditions) ::
    Json.nonemptyField "features" Wire.toJson o.features.items ++
    Json.nonemptyField "immutableFeatures" Wire.toJson o.immutableFeatures.items

instance : Wire AliasOutput := ⟨fun o => .object o.fields, record.ofObjectOnlyOrArray⟩

end AliasOutput

namespace FoundryOutput

/-- The kind byte. -/
def kind : UInt8 := 5

/-- The controlling alias is required. -/
def rules : OutputRules where
  name := "foundry"
  requiredConditions := [6]
  allowedConditions := [6]
  allowedFeatures := [2]
  allowedImmutableFeatures := [2]

/-- Checks the output. -/
def verify (o : FoundryOutput) : Except EncodingError Unit := do
  o.amount.verify
  o.nativeTokens.verify
  o.tokenScheme.verify
  rules.verify o.unlockConditions o.features o.immutableFeatures

/-- The alias that controls the foundry. -/
def aliasId? (o : FoundryOutput) : Option AliasId :=
  match o.unlockConditions.immutableAlias? with
  | some (.alias id) => some id
  | _ => none

instance : Packable FoundryOutput where
  pack o :=
    pack o.amount ++ pack o.nativeTokens ++ Bytes.littleEndian 4 o.serialNumber.toNat ++
      pack o.tokenScheme ++ pack o.unlockConditions ++ pack o.features ++
      pack o.immutableFeatures
  unpack checking := do
    let amount ← unpack checking
    let nativeTokens ← unpack checking
    let serialNumber ← unpackWord32
    let tokenScheme ← unpack checking
    let unlockConditions ← unpack checking
    let features ← unpack checking
    let immutableFeatures ← unpack checking
    let o : FoundryOutput :=
      { amount, nativeTokens, serialNumber, tokenScheme, unlockConditions, features,
        immutableFeatures }
    checking.require o.verify
    return o
  verify := verify

/-- The fields of the JSON form. -/
def record : Json.Record FoundryOutput :=
  open Json.Record in
  mk <$> required "amount" <*> withDefault "nativeTokens" .empty <*> required "serialNumber"
    <*> required "tokenScheme" <*> required "unlockConditions"
    <*> withDefault "features" .empty <*> withDefault "immutableFeatures" .empty

/-- The fields in JSON; empty lists are left out, but for the unlock conditions. -/
def fields (o : FoundryOutput) : List Json.Field :=
  ("amount", Wire.toJson o.amount) ::
    Json.nonemptyField "nativeTokens" Wire.toJson o.nativeTokens.items ++
    ("serialNumber", Wire.toJson o.serialNumber) ::
    ("tokenScheme", Wire.toJson o.tokenScheme) ::
    ("unlockConditions", Wire.toJson o.unlockConditions) ::
    Json.nonemptyField "features" Wire.toJson o.features.items ++
    Json.nonemptyField "immutableFeatures" Wire.toJson o.immutableFeatures.items

instance : Wire FoundryOutput := ⟨fun o => .object o.fields, record.ofObjectOnlyOrArray⟩

end FoundryOutput

namespace NftOutput

/-- The kind byte. -/
def kind : UInt8 := 6

/-- An address is required; deposit return, timelock and expiration are accepted. -/
def rules : OutputRules where
  name := "nft"
  requiredConditions := [0]
  allowedConditions := [0, 1, 2, 3]
  allowedFeatures := [0, 2, 3]
  allowedImmutableFeatures := [1, 2]

/-- Checks the output. -/
def verify (o : NftOutput) : Except EncodingError Unit := do
  o.amount.verify
  o.nativeTokens.verify
  rules.verify o.unlockConditions o.features o.immutableFeatures

instance : Packable NftOutput where
  pack o :=
    pack o.amount ++ pack o.nativeTokens ++ pack o.nftId ++ pack o.unlockConditions ++
      pack o.features ++ pack o.immutableFeatures
  unpack checking := do
    let amount ← unpack checking
    let nativeTokens ← unpack checking
    let nftId ← unpack checking
    let unlockConditions ← unpack checking
    let features ← unpack checking
    let immutableFeatures ← unpack checking
    let o : NftOutput :=
      { amount, nativeTokens, nftId, unlockConditions, features, immutableFeatures }
    checking.require o.verify
    return o
  verify := verify

/-- The fields of the JSON form. -/
def record : Json.Record NftOutput :=
  open Json.Record in
  mk <$> required "amount" <*> withDefault "nativeTokens" .empty <*> required "nftId"
    <*> required "unlockConditions" <*> withDefault "features" .empty
    <*> withDefault "immutableFeatures" .empty

/-- The fields in JSON; empty lists are left out, but for the unlock conditions. -/
def fields (o : NftOutput) : List Json.Field :=
  ("amount", Wire.toJson o.amount) ::
    Json.nonemptyField "nativeTokens" Wire.toJson o.nativeTokens.items ++
    ("nftId", Wire.toJson o.nftId) :: ("unlockConditions", Wire.toJson o.unlockConditions) ::
    Json.nonemptyField "features" Wire.toJson o.features.items ++
    Json.nonemptyField "immutableFeatures" Wire.toJson o.immutableFeatures.items

instance : Wire NftOutput := ⟨fun o => .object o.fields, record.ofObjectOnlyOrArray⟩

end NftOutput

end UtxoCodec
