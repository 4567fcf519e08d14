import UtxoCodec.Protocol

/-!
# Drafts of outputs

A draft collects what an output is to hold, in any order. Finishing it sorts and checks the parts,
takes the least storage deposit where no amount is set, checks the amount against the token supply and
verifies the output. In JSON, what is not set is left out, but for the unlock conditions.
-/

namespace UtxoCodec

/-- The kinds of output that can be drafted. -/
inductive DraftKind where
  | basic
  | «alias»
  | foundry
  | nft
  deriving DecidableEq, Repr

/-- What a draft holds besides the parts that all kinds share. -/
inductive DraftSubject where
  | basic
  | «alias» (id : AliasId) (stateIndex : Option UInt32) (stateMetadata : Option Bytes)
      (foundryCounter : Option UInt32) (immutableFeatures : Option (List Feature))
  | foundry (serialNumber : UInt32) (tokenScheme : TokenScheme)
      (immutableFeatures : Option (List Feature))
  | nft (id : NftId) (immutableFeatures : Option (List Feature))
  deriving DecidableEq

/-- A draft of an output. -/
structure Draft where
  amount : Option Amount
  nativeTokens : Option (List NativeToken)
  unlockConditions : List UnlockCondition
  features : Option (List Feature)
  subject : DraftSubject
  deriving DecidableEq

namespace Draft

/-- The kind of the output. -/
def kind (d : Draft) : DraftKind :=
  match d.subject with
  | .basic => .basic
  | .alias .. => .alias
  | .foundry .. => .foundry
  | .nft .. => .nft

/-- A draft that holds its subject only. -/
def ofSubject (subject : DraftSubject) : Draft := ⟨none, none, [], none, subject⟩

/-- A draft of a basic output. -/
def basic : Draft := ofSubject .basic

/-- A draft of an output of an alias. -/
def «alias» (id : AliasId) : Draft := ofSubject (.alias id none none none none)

/-- A draft of an output of a foundry. -/
def foundry (serialNumber : UInt32) (tokenScheme : TokenScheme) : Draft :=
  ofSubject (.foundry serialNumber tokenScheme none)

/-- A draft of an output of an NFT. -/
def nft (id : NftId) : Draft := ofSubject (.nft id none)

/-! ## Collecting -/

/-- Appends to a list that may not have been begun. -/
def append {α : Type} (items : Option (List α)) (item : α) : Option (List α) :=
  some (items.getD [] ++ [item])

/-- Sets the amount. -/
def withAmount (d : Draft) (amount : Amount) : Draft := { d with amount := some amount }

/-- Adds a native token. -/
def addNativeToken (d : Draft) (token : NativeToken) : Draft :=
  { d with nativeTokens := append d.nativeTokens token }

/-- Adds an unlock condition. -/
def addUnlockCondition (d : Draft) (condition : UnlockCondition) : Draft :=
  { d with unlockConditions := d.unlockConditions ++ [condition] }

/-- Adds a feature. -/
def addFeature (d : Draft) (feature : Feature) : Draft :=
  { d with features := append d.features feature }

/-- Adds an immutable feature, if the kind has them. -/
def addImmutableFeature? (d : Draft) (feature : Feature) : Option Draft :=
  match d.subject with
  | .basic => none
  | .alias id index metadata counter fs =>
    some { d with subject := .alias id index metadata counter (append fs feature) }
  | .foundry number scheme fs =>
    some { d with subject := .foundry number scheme (append fs feature) }
  | .nft id fs => some { d with subject := .nft id (append fs feature) }

/-- Sets the state index of an alias. -/
def withStateIndex? (d : Draft) (index : UInt32) : Option Draft :=
  match d.subject with
  | .alias id _ metadata counter fs =>
    some { d with subject := .alias id (some index) metadata counter fs }
  | _ => none

/-- Sets the state metadata of an alias. -/
def withStateMetadata? (d : Draft) (metadata : Bytes) : Option Draft :=
  match d.subject with
  | .alias id index _ counter fs =>
    some { d with subject := .alias id index (some metadata) counter fs }
  | _ => none

/-- Sets the foundry counter of an alias. -/
def withFoundryCounter? (d : Draft) (counter : UInt32) : Option Draft :=
  match d.subject with
  | .alias id index metadata _ fs =>
    some { d with subject := .alias id index metadata (some counter) fs }
  | _ => none

/-! ## Finishing -/

/-- The output with the collected parts and no amount. -/
def outline (d : Draft) : Except EncodingError Output := do
  let nativeTokens ← NativeTokens.ofList (d.nativeTokens.getD [])
  let unlockConditions ← UnlockConditions.ofList d.unlockConditions
  let features ← Features.ofList (d.features.getD [])
  match d.subject with
  | .basic =>
    return .basic { amount := .zero, nativeTokens, unlockConditions, features }
  | .alias aliasId index metadata counter fs =>
    let immutableFeatures ← Features.ofList (fs.getD [])
    return .alias
      { amount := .zero, nativeTokens, aliasId, stateIndex := index.getD 0,
        stateMetadata := metadata.getD [], foundryCounter := counter.getD 0, unlockConditions,
        features, immutableFeatures }
  | .foundry serialNumber tokenScheme fs =>
    let immutableFeatures ← Features.ofList (fs.getD [])
    return .foundry
      { amount := .zero, nativeTokens, serialNumber, tokenScheme, unlockConditions, features,
        immutableFeatures }
  | .nft nftId fs =>
    let immutableFeatures ← Features.ofList (fs.getD [])
    return .nft
      { amount := .zero, nativeTokens, nftId, unlockConditions, features, immutableFeatures }

/-- The amount of the finished output: the one set, or the storage deposit of the outline. -/
def settleAmount (d : Draft) (p : ProtocolParameters) (outline : Output) :
    Except EncodingError Amount :=
  match d.amount with
  | some amount => .ok amount
  | none => (p.rentStructure.rentCost outline).map .ofUInt64

/-- The finished output. -/
def finish (d : Draft) (p : ProtocolParameters) : Except EncodingError Output := do
  let outline ← d.outline
  let amount ← d.settleAmount p outline
  let _ ← p.verifyAmount amount
  let output := outline.withAmount amount
  output.verify
  return output

/-! ## JSON -/

/-- The JSON form. -/
def toJson (d : Draft) : Json :=
  let featuresField (name : String) := Json.optionalField (α := List Feature) name Wire.toJson
  let (own, immutableFeatures) : List Json.Field × Option (List Feature) :=
    match d.subject with
    | .basic => ([], none)
    | .alias id index metadata counter fs =>
      (("aliasId", Wire.toJson id) ::
        Json.optionalField "stateIndex" Wire.toJson index ++
        Json.optionalField "stateMetadata" Json.ofBytes metadata ++
        Json.optionalField "foundryCounter" Wire.toJson counter, fs)
    | .foundry serialNumber tokenScheme fs =>
      ([("serialNumber", Wire.toJson serialNumber), ("tokenScheme", Wire.toJson tokenScheme)], fs)
    | .nft id fs => ([("nftId", Wire.toJson id)], fs)
  .object
    (Json.optionalField "amount" Wire.toJson d.amount ++
      Json.optionalField "nativeTokens" Wire.toJson d.nativeTokens ++ own ++
      ("unlockConditions", Wire.toJson d.unlockConditions) ::
      featuresField "features" d.features ++
      featuresField "immutableFeatures" immutableFeatures)

/-- The fields of the JSON form of a kind. -/
def record (kind : DraftKind) : Json.Record Draft :=
  open Json.Record in
  let immutableFeatures : Json.Record (Option (List Feature)) := optional "immutableFeatures"
  let shared {α : Type} (own : Json.Record α) (tail : Json.Record (α → DraftSubject)) :
      Json.Record Draft :=
    (fun amount tokens own conditions features tail =>
        ⟨amount, tokens, conditions, features, tail own⟩)
      <$> optional "amount" <*> optional "nativeTokens" <*> own
      <*> withDefault "unlockConditions" [] <*> optional "features" <*> tail
  match kind with
  | .basic => shared ⟨[], fun _ _ => .ok ()⟩ ⟨[], fun _ _ => .ok fun _ => .basic⟩
  | .alias =>
    shared
      ((fun id index metadata counter => DraftSubject.alias id index metadata counter)
        <$> required "aliasId" <*> optional "stateIndex"
        <*> fieldOr (some none) "stateMetadata" (fun j => (Json.readBytes j).map some)
        <*> optional "foundryCounter")
      ((fun fs make => make fs) <$> immutableFeatures)
  | .foundry =>
    shared (DraftSubject.foundry <$> required "serialNumber" <*> required "tokenScheme")
      ((fun fs make => make fs) <$> immutableFeatures)
  | .nft =>
    shared (DraftSubject.nft <$> required "nftId") ((fun fs make => make fs) <$> immutableFeatures)

/-- Reads the JSON form of a draft of a kind. -/
def ofJson (kind : DraftKind) (j : Json) : Except JsonError Draft := (record kind).ofObjectOrArray j

end Draft

end UtxoCodec
