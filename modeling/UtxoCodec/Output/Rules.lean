import UtxoCodec.Feature
import UtxoCodec.UnlockCondition

/-!
# Rules of an output kind

Which unlock conditions a kind of output requires and accepts, and which features. The lists are
checked first, then what they hold against what is accepted, then what is required.
-/

namespace UtxoCodec

/-- The unlock conditions and features of an output kind, by their kinds. -/
structure OutputRules where
  name : String
  requiredConditions : List UInt8
  allowedConditions : List UInt8
  allowedFeatures : List UInt8
  allowedImmutableFeatures : List UInt8

namespace OutputRules

/-- Checks that a kind is accepted. -/
def verifyAllowed (rules : OutputRules) (what : String) (allowed : List UInt8) (kind : UInt8) :
    Except EncodingError Unit :=
  if allowed.contains kind then .ok () else .error (.disallowed rules.name what kind)

/-- Checks that a condition is present. -/
def verifyPresent (rules : OutputRules) (conditions : UnlockConditions) (kind : UInt8) :
    Except EncodingError Unit :=
  if conditions.items.any (·.kind == kind) then .ok ()
  else .error (.missing rules.name "unlock condition" kind)

/-- Checks the conditions and features of an output. -/
def verify (rules : OutputRules) (conditions : UnlockConditions)
    (features immutableFeatures : Features) : Except EncodingError Unit := do
  conditions.verify
  features.verify
  immutableFeatures.verify
  verifyAll (fun c => rules.verifyAllowed "unlock condition" rules.allowedConditions c.kind)
    conditions.items
  verifyAll (fun f => rules.verifyAllowed "feature" rules.allowedFeatures f.kind) features.items
  verifyAll
    (fun f => rules.verifyAllowed "immutable feature" rules.allowedImmutableFeatures f.kind)
    immutableFeatures.items
  verifyAll (rules.verifyPresent conditions) rules.requiredConditions

end OutputRules

end UtxoCodec
