import UtxoCodec.NativeToken
import UtxoCodec.Output.Rules

/-!
# Outputs without a chain

The treasury output holds the funds of a migration and nothing else. The basic output transfers base
tokens and native tokens to an address.
-/

namespace UtxoCodec

/-- Holds the funds of the migration from the legacy network. -/
structure TreasuryOutput where
  amount : Amount
  deriving DecidableEq

namespace TreasuryOutput

/-- The kind byte. -/
def kind : UInt8 := 2

instance : Packable TreasuryOutput where
  pack o := pack o.amount
  unpack checking := do
    let o : TreasuryOutput := ⟨← unpack checking⟩
    checking.require o.amount.verify
    return o
  verify o := o.amount.verify

/-- The fields of the JSON form. -/
def record : Json.Record TreasuryOutput :=
  open Json.Record in mk <$> required "amount"

/-- The fields in JSON. -/
def fields (o : TreasuryOutput) : List Json.Field := [("amount", Wire.toJson o.amount)]

instance : Wire TreasuryOutput := ⟨fun o => .object o.fields, record.ofObjectOnlyOrArray⟩

end TreasuryOutput

/-- Transfers tokens. -/
structure BasicOutput where
  amount : Amount
  nativeTokens : NativeTokens
  unlockConditions : UnlockConditions
  features : Features
  deriving DecidableEq

namespace BasicOutput

/-- The kind byte. -/
def kind : UInt8 := 3

/-- An address is required; deposit return, timelock and expiration are accepted. -/
def rules : OutputRules where
  name := "basic"
  requiredConditions := [0]
  allowedConditions := [0, 1, 2, 3]
  allowedFeatures := [0, 2, 3]
  allowedImmutableFeatures := []

/-- Checks the output. -/
def verify (o : BasicOutput) : Except EncodingError Unit := do
  o.amount.verify
  o.nativeTokens.verify
  rules.verify o.unlockConditions o.features .empty

instance : Packable BasicOutput where
  pack o := pack o.amount ++ pack o.nativeTokens ++ pack o.unlockConditions ++ pack o.features
  unpack checking := do
    let amount ← unpack checking
    let nativeTokens ← unpack checking
    let unlockConditions ← unpack checking
    let features ← unpack checking
    let o : BasicOutput := ⟨amount, nativeTokens, unlockConditions, features⟩
    checking.require o.verify
    return o
  verify := verify

/-- The fields of the JSON form. -/
def record : Json.Record BasicOutput :=
  open Json.Record in
  mk <$> required "amount" <*> withDefault "nativeTokens" .empty <*> required "unlockConditions"
    <*> withDefault "features" .empty

/-- The fields in JSON; empty lists are left out, but for the unlock conditions. -/
def fields (o : BasicOutput) : List Json.Field :=
  ("amount", Wire.toJson o.amount) ::
    Json.nonemptyField "nativeTokens" Wire.toJson o.nativeTokens.items ++
    ("unlockConditions", Wire.toJson o.unlockConditions) ::
    Json.nonemptyField "features" Wire.toJson o.features.items

instance : Wire BasicOutput := ⟨fun o => .object o.fields, record.ofObjectOnlyOrArray⟩

end BasicOutput

end UtxoCodec
