import Mathlib.Tactic.MkIffOfInductiveProp
import UtxoCodec.Proofs.Order
import UtxoCodec.Proofs.Packing.Decode

/-!
# Which outputs verify

`Output.Acceptable` writes down the rules of the protocol for each kind of output, without the checks
that enforce them: bounds as numbers, the kinds accepted and required in each place as lists, order as
a relation between all elements. An output verifies if and only if it is acceptable
(`Output.verify_eq_ok_iff_acceptable`). That there are no more unlock conditions and features than a list
may have is no rule of its own: it follows from their order and the kinds accepted.
-/

namespace UtxoCodec

/-! ## The rules -/

/-- The kinds in a list whose elements are told by their kind. -/
structure KindsWithin (required allowed kinds : List UInt8) : Prop where
  increasing : kinds.Pairwise (· < ·)
  allowed : ∀ kind ∈ kinds, kind ∈ allowed
  required : ∀ kind ∈ required, kind ∈ kinds

/-- The condition is recognized and holds what its kind may hold. -/
def UnlockCondition.Acceptable : UnlockCondition → Prop
  | address _ | stateController _ | governor _ => True
  | storageDepositReturn c => c.amount.value < UInt64.size
  | timelock c => c.unixTime ≠ 0
  | expiration c => c.unixTime ≠ 0
  | immutableAlias a => ∃ id, a = .alias id
  | unknown _ => False

/-- The feature is recognized and holds what its kind may hold. -/
def Feature.Acceptable : Feature → Prop
  | sender _ | issuer _ => True
  | metadata data => 1 ≤ data.length ∧ data.length ≤ 8192
  | tag bytes => 1 ≤ bytes.length ∧ bytes.length ≤ 64
  | unknown _ => False

structure UnlockConditions.Acceptable (required allowed : List UInt8) (cs : UnlockConditions) :
    Prop where
  kinds : KindsWithin required allowed (cs.items.map UnlockCondition.kind)
  items : ∀ c ∈ cs.items, c.Acceptable

structure Features.Acceptable (allowed : List UInt8) (fs : Features) : Prop where
  kinds : KindsWithin [] allowed (fs.items.map Feature.kind)
  items : ∀ f ∈ fs.items, f.Acceptable

structure NativeTokens.Acceptable (ts : NativeTokens) : Prop where
  count : ts.items.length ≤ 64
  increasing : (ts.items.map fun t => t.id.bytes).Pairwise (· < ·)
  amounts : ∀ t ∈ ts.items, t.amount ≠ 0

/-- The scheme is recognized, has a maximum and does not exceed it. -/
def TokenScheme.Acceptable : TokenScheme → Prop
  | simple s => 0 < s.maximumSupply.toNat ∧ s.meltedTokens.toNat ≤ s.mintedTokens.toNat ∧
      s.mintedTokens.toNat - s.meltedTokens.toNat ≤ s.maximumSupply.toNat
  | unknown _ => False

structure BasicOutput.Acceptable (o : BasicOutput) : Prop where
  amount : o.amount.value < UInt64.size
  nativeTokens : o.nativeTokens.Acceptable
  unlockConditions : o.unlockConditions.Acceptable [0] [0, 1, 2, 3]
  features : o.features.Acceptable [0, 2, 3]

@[mk_iff]
structure AliasOutput.Acceptable (o : AliasOutput) : Prop where
  amount : o.amount.value < UInt64.size
  nativeTokens : o.nativeTokens.Acceptable
  stateMetadata : o.stateMetadata.length ≤ 8192
  unlockConditions : o.unlockConditions.Acceptable [4, 5] [4, 5]
  features : o.features.Acceptable [0, 2]
  immutableFeatures : o.immutableFeatures.Acceptable [1, 2]

@[mk_iff]
structure FoundryOutput.Acceptable (o : FoundryOutput) : Prop where
  amount : o.amount.value < UInt64.size
  nativeTokens : o.nativeTokens.Acceptable
  tokenScheme : o.tokenScheme.Acceptable
  unlockConditions : o.unlockConditions.Acceptable [6] [6]
  features : o.features.Acceptable [2]
  immutableFeatures : o.immutableFeatures.Acceptable [2]

@[mk_iff]
structure NftOutput.Acceptable (o : NftOutput) : Prop where
  amount : o.amount.value < UInt64.size
  nativeTokens : o.nativeTokens.Acceptable
  unlockConditions : o.unlockConditions.Acceptable [0] [0, 1, 2, 3]
  features : o.features.Acceptable [0, 2, 3]
  immutableFeatures : o.immutableFeatures.Acceptable [1, 2]

/-- The element is kept as bytes, and its kind is no output's or the strict reader of outputs fails on
a kind inside that it does not know. -/
def Unrecognized.AcceptableOutput (u : Unrecognized) : Prop :=
  ∃ body, u.body = .packed body ∧
    (u.kind ∉ [2, 3, 4, 5, 6] ∨
      ∃ what kind, unpackExact (α := Output) (u.kind :: body) = .error (.unknownKind what kind))

/-- The rules of the protocol for an output. -/
def Output.Acceptable : Output → Prop
  | treasury o => o.amount.value < UInt64.size
  | basic o => o.Acceptable
  | «alias» o => o.Acceptable
  | foundry o => o.Acceptable
  | nft o => o.Acceptable
  | unknown u => u.AcceptableOutput

/-! ## The checks -/

theorem UnlockCondition.verify_iff_acceptable {c : UnlockCondition} :
    c.verify = .ok () ↔ c.Acceptable := by
  cases c with
  | address a => exact iff_of_true rfl trivial
  | stateController a => exact iff_of_true rfl trivial
  | governor a => exact iff_of_true rfl trivial
  | storageDepositReturn c => exact Amount.verify_eq_ok
  | timelock c => simp [verify, Acceptable]
  | expiration c => simp [verify, Acceptable]
  | immutableAlias a => cases a <;> simp [verify, Acceptable]
  | unknown u => simp [verify, Acceptable]

theorem Feature.verify_iff_acceptable {f : Feature} : f.verify = .ok () ↔ f.Acceptable := by
  cases f with
  | sender a => exact iff_of_true rfl trivial
  | issuer a => exact iff_of_true rfl trivial
  | metadata data => exact verifyLength_eq_ok
  | tag bytes => exact verifyLength_eq_ok
  | unknown u => simp [verify, Acceptable]

theorem NativeTokens.verify_iff_acceptable {ts : NativeTokens} :
    ts.verify = .ok () ↔ ts.Acceptable := by
  rw [verify_iff_increasing]
  constructor
  · rintro ⟨hcount, hincreasing, hamounts⟩
    exact ⟨hcount, hincreasing, hamounts⟩
  · rintro ⟨hcount, hincreasing, hamounts⟩
    exact ⟨hcount, hincreasing, hamounts⟩

theorem SimpleTokenScheme.toNat_circulatingSupply (s : SimpleTokenScheme) :
    s.circulatingSupply.toNat = s.mintedTokens.toNat - s.meltedTokens.toNat := by
  unfold circulatingSupply
  rw [BitVec.toNat_ofNat]
  exact Nat.mod_eq_of_lt (Nat.lt_of_le_of_lt (Nat.sub_le _ _) s.mintedTokens.isLt)

theorem TokenScheme.verify_iff_acceptable {s : TokenScheme} :
    s.verify = .ok () ↔ s.Acceptable := by
  cases s with
  | unknown u => simp [verify, Acceptable]
  | simple s =>
    have hmaximum : s.maximumSupply ≠ 0 ↔ 0 < s.maximumSupply.toNat := by
      have hzero : (0 : BitVec 256).toNat = 0 := rfl
      rw [Ne, ← BitVec.toNat_inj, hzero, Nat.pos_iff_ne_zero]
    have hmelted : ¬ s.mintedTokens < s.meltedTokens ↔
        s.meltedTokens.toNat ≤ s.mintedTokens.toNat := by
      rw [BitVec.lt_def, Nat.not_lt]
    have hsupply : ¬ s.maximumSupply < s.circulatingSupply ↔
        s.mintedTokens.toNat - s.meltedTokens.toNat ≤ s.maximumSupply.toNat := by
      rw [BitVec.lt_def, s.toNat_circulatingSupply, Nat.not_lt]
    unfold verify SimpleTokenScheme.verify
    rw [ite_error_eq_ok, ite_error_eq_ok, ite_error_eq_ok, ← Ne, hmaximum, hmelted, hsupply]
    simp [Acceptable]

/-- The count follows from the order and the kinds allowed. -/
theorem kindsWithin_iff {α : Type} {kind : α → UInt8} {what : String} {greatest : Nat}
    {required allowed : List UInt8} (hgreatest : allowed.length ≤ greatest) {items : List α} :
    KindsWithin required allowed (items.map kind) ↔
      SortedKinds.verify kind what greatest items = .ok () ∧ (∀ a ∈ items, kind a ∈ allowed) ∧
        ∀ k ∈ required, ∃ a ∈ items, kind a = k := by
  have hallowed : (∀ k ∈ items.map kind, k ∈ allowed) ↔ ∀ a ∈ items, kind a ∈ allowed :=
    List.forall_mem_map
  have hrequired : (∀ k ∈ required, k ∈ items.map kind) ↔
      ∀ k ∈ required, ∃ a ∈ items, kind a = k := by
    simp only [List.mem_map]
  rw [SortedKinds.verify_eq_ok, SortedKinds.verifyOrder_eq_ok, ← hallowed, ← hrequired]
  constructor
  · rintro ⟨hincreasing, hin, hthere⟩
    have hcount := length_le_of_increasing hincreasing hin
    rw [List.length_map] at hcount
    exact ⟨⟨Nat.le_trans hcount hgreatest, hincreasing⟩, hin, hthere⟩
  · rintro ⟨⟨-, hincreasing⟩, hin, hthere⟩
    exact ⟨hincreasing, hin, hthere⟩

theorem UnlockConditions.acceptable_iff {required allowed : List UInt8}
    (hgreatest : allowed.length ≤ greatestCount) {cs : UnlockConditions} :
    cs.Acceptable required allowed ↔ cs.verify = .ok () ∧ (∀ c ∈ cs.items, c.kind ∈ allowed) ∧
      ∀ kind ∈ required, ∃ c ∈ cs.items, c.kind = kind := by
  rw [verify_eq_ok]
  simp only [UnlockCondition.verify_iff_acceptable]
  constructor
  · rintro ⟨hkinds, hitems⟩
    obtain ⟨hverify, hin, hthere⟩ := (kindsWithin_iff hgreatest).1 hkinds
    exact ⟨⟨hverify, hitems⟩, hin, hthere⟩
  · rintro ⟨⟨hverify, hitems⟩, hin, hthere⟩
    exact ⟨(kindsWithin_iff hgreatest).2 ⟨hverify, hin, hthere⟩, hitems⟩

theorem Features.acceptable_iff {allowed : List UInt8} (hgreatest : allowed.length ≤ greatestCount)
    {fs : Features} :
    fs.Acceptable allowed ↔ fs.verify = .ok () ∧ ∀ f ∈ fs.items, f.kind ∈ allowed := by
  rw [verify_eq_ok]
  simp only [Feature.verify_iff_acceptable]
  constructor
  · rintro ⟨hkinds, hitems⟩
    obtain ⟨hverify, hin, -⟩ := (kindsWithin_iff hgreatest).1 hkinds
    exact ⟨⟨hverify, hitems⟩, hin⟩
  · rintro ⟨⟨hverify, hitems⟩, hin⟩
    have hnone : ∀ kind ∈ ([] : List UInt8), ∃ f ∈ fs.items, f.kind = kind :=
      fun kind hkind => absurd hkind List.not_mem_nil
    exact ⟨(kindsWithin_iff hgreatest).2 ⟨hverify, hin, hnone⟩, hitems⟩

theorem Features.acceptable_empty : empty.Acceptable [] :=
  (acceptable_iff (by decide)).2 ⟨rfl, fun f hf => absurd hf List.not_mem_nil⟩

/-- The rules accept no more kinds in a place than fit there. -/
structure OutputRules.Fit (rules : OutputRules) : Prop where
  conditions : rules.allowedConditions.length ≤ UnlockConditions.greatestCount
  features : rules.allowedFeatures.length ≤ Features.greatestCount
  immutableFeatures : rules.allowedImmutableFeatures.length ≤ Features.greatestCount

theorem OutputRules.verify_iff_acceptable {rules : OutputRules} (hfit : rules.Fit)
    {conditions : UnlockConditions} {features immutableFeatures : Features} :
    rules.verify conditions features immutableFeatures = .ok () ↔
      conditions.Acceptable rules.requiredConditions rules.allowedConditions ∧
        features.Acceptable rules.allowedFeatures ∧
          immutableFeatures.Acceptable rules.allowedImmutableFeatures := by
  rw [verify_eq_ok, UnlockConditions.acceptable_iff hfit.conditions,
    Features.acceptable_iff hfit.features, Features.acceptable_iff hfit.immutableFeatures]
  constructor
  · rintro ⟨hc, hf, hi, hkc, hkf, hki, hrequired⟩
    exact ⟨⟨hc, hkc, hrequired⟩, ⟨hf, hkf⟩, hi, hki⟩
  · rintro ⟨⟨hc, hkc, hrequired⟩, ⟨hf, hkf⟩, hi, hki⟩
    exact ⟨hc, hf, hi, hkc, hkf, hki, hrequired⟩

/-! ## Outputs -/

theorem BasicOutput.verify_iff_acceptable {o : BasicOutput} :
    o.verify = .ok () ↔ o.Acceptable := by
  have hfit : rules.Fit := ⟨by decide, by decide, by decide⟩
  rw [verify_eq_ok, Amount.verify_eq_ok, NativeTokens.verify_iff_acceptable,
    OutputRules.verify_iff_acceptable hfit]
  constructor
  · rintro ⟨hamount, htokens, hconditions, hfeatures, -⟩
    exact ⟨hamount, htokens, hconditions, hfeatures⟩
  · rintro ⟨hamount, htokens, hconditions, hfeatures⟩
    exact ⟨hamount, htokens, hconditions, hfeatures, Features.acceptable_empty⟩

theorem AliasOutput.verify_iff_acceptable {o : AliasOutput} :
    o.verify = .ok () ↔ o.Acceptable := by
  have hfit : rules.Fit := ⟨by decide, by decide, by decide⟩
  rw [verify_eq_ok, Amount.verify_eq_ok, NativeTokens.verify_iff_acceptable,
    OutputRules.verify_iff_acceptable hfit]
  exact (acceptable_iff o).symm

theorem FoundryOutput.verify_iff_acceptable {o : FoundryOutput} :
    o.verify = .ok () ↔ o.Acceptable := by
  have hfit : rules.Fit := ⟨by decide, by decide, by decide⟩
  rw [verify_eq_ok, Amount.verify_eq_ok, NativeTokens.verify_iff_acceptable,
    TokenScheme.verify_iff_acceptable, OutputRules.verify_iff_acceptable hfit]
  exact (acceptable_iff o).symm

theorem NftOutput.verify_iff_acceptable {o : NftOutput} :
    o.verify = .ok () ↔ o.Acceptable := by
  have hfit : rules.Fit := ⟨by decide, by decide, by decide⟩
  rw [verify_eq_ok, Amount.verify_eq_ok, NativeTokens.verify_iff_acceptable,
    OutputRules.verify_iff_acceptable hfit]
  exact (acceptable_iff o).symm

/-- An input that begins with a kind that no output has is not read any further. -/
theorem Output.meetsUnknown_of_not_mem {kind : UInt8} (h : kind ∉ [2, 3, 4, 5, 6]) (body : Bytes) :
    MeetsUnknown (kind :: body) := by
  have hunknown : isKnownKind kind = false := by
    simp only [List.mem_cons, List.not_mem_nil, or_false, not_or] at h
    obtain ⟨h₂, h₃, h₄, h₅, h₆⟩ := h
    simp only [isKnownKind, Bool.or_eq_false_iff, decide_eq_false_iff_not]
    exact ⟨⟨⟨⟨h₂, h₃⟩, h₄⟩, h₅⟩, h₆⟩
  exact ⟨"output", kind, unpack_of_not_isKnownKind hunknown⟩

theorem Output.verify_unknown_iff_acceptable {u : Unrecognized} :
    (unknown u).verify = .ok () ↔ u.AcceptableOutput := by
  rw [verify_unknown_eq_ok]
  refine exists_congr fun body => and_congr_right fun _ => ?_
  have hmeets : MeetsUnknown (u.kind :: body) ↔
      ∃ what kind, unpackExact (α := Output) (u.kind :: body) = .error (.unknownKind what kind) :=
    exists_congr fun what => exists_congr fun kind => unpackKnown_eq_unknownKind.symm
  rw [hmeets]
  refine ⟨Or.inr, ?_⟩
  rintro (hkind | h)
  · exact hmeets.1 (meetsUnknown_of_not_mem hkind body)
  · exact h

/-- An output verifies if and only if it keeps the rules of its kind. -/
theorem Output.verify_eq_ok_iff_acceptable (o : Output) : o.verify = .ok () ↔ o.Acceptable := by
  cases o with
  | treasury o => exact Amount.verify_eq_ok
  | basic o => exact BasicOutput.verify_iff_acceptable
  | «alias» o => exact AliasOutput.verify_iff_acceptable
  | foundry o => exact FoundryOutput.verify_iff_acceptable
  | nft o => exact NftOutput.verify_iff_acceptable
  | unknown u => exact verify_unknown_iff_acceptable

end UtxoCodec
