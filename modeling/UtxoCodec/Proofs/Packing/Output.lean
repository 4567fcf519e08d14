import UtxoCodec.Output
import UtxoCodec.Proofs.Packing.Collection

/-!
# Binary forms of the kinds of outputs

Every kind of output has a lawful binary form: its reader reads the fields from the left and checks
the rules of the kind behind them, and its check covers every field.
-/

namespace UtxoCodec

open Unpacker

/-! ## Rules of a kind -/

theorem OutputRules.verify_eq_ok {rules : OutputRules} {conditions : UnlockConditions}
    {features immutableFeatures : Features} :
    rules.verify conditions features immutableFeatures = .ok () ↔
      conditions.verify = .ok () ∧ features.verify = .ok () ∧ immutableFeatures.verify = .ok () ∧
      (∀ c ∈ conditions.items, c.kind ∈ rules.allowedConditions) ∧
      (∀ f ∈ features.items, f.kind ∈ rules.allowedFeatures) ∧
      (∀ f ∈ immutableFeatures.items, f.kind ∈ rules.allowedImmutableFeatures) ∧
      ∀ kind ∈ rules.requiredConditions, ∃ c ∈ conditions.items, c.kind = kind := by
  unfold OutputRules.verify OutputRules.verifyAllowed OutputRules.verifyPresent
  simp only [andThen_eq_ok, verifyAll_eq_ok, ite_eq_ok, List.contains_iff_mem, List.any_eq_true,
    beq_iff_eq]

/-! ## The kinds -/

namespace TreasuryOutput

instance lawfulPackable : LawfulPackable TreasuryOutput where
  stable checking :=
    .bind (LawfulUnpack.stable checking) fun _ => .bind (.require ..) fun _ => .pure _
  cautious := .bind LawfulUnpack.cautious fun _ => .bind (.require _) fun _ => .refl _
  sound {checking input rest o} h := by
    obtain ⟨amount, mid, hamount, h⟩ := bind_eq_ok.1 h
    obtain ⟨_, mid', hreq, h⟩ := bind_eq_ok.1 h
    obtain ⟨rfl, rfl⟩ := pure_eq_ok.1 h
    obtain ⟨hv, rfl⟩ := require_eq_ok.1 hreq
    have hinput := LawfulUnpack.eq_pack_append hamount
    exact ⟨hinput, hv⟩
  complete {o} hv := .checked (LawfulPackable.complete (a := o.amount) hv) hv _

end TreasuryOutput

namespace BasicOutput

theorem verify_eq_ok {o : BasicOutput} : o.verify = .ok () ↔
    o.amount.verify = .ok () ∧ o.nativeTokens.verify = .ok () ∧
      rules.verify o.unlockConditions o.features .empty = .ok () := by
  rw [verify, andThen_eq_ok, andThen_eq_ok]

instance lawfulPackable : LawfulPackable BasicOutput where
  stable checking :=
    .bind (LawfulUnpack.stable checking) fun _ => .bind (LawfulUnpack.stable checking) fun _ =>
    .bind (LawfulUnpack.stable checking) fun _ => .bind (LawfulUnpack.stable checking) fun _ =>
    .bind (.require ..) fun _ => .pure _
  cautious :=
    .bind LawfulUnpack.cautious fun _ => .bind LawfulUnpack.cautious fun _ =>
    .bind LawfulUnpack.cautious fun _ => .bind LawfulUnpack.cautious fun _ =>
    .bind (.require _) fun _ => .refl _
  sound {checking input rest o} h := by
    obtain ⟨amount, m₁, hamount, h⟩ := bind_eq_ok.1 h
    obtain ⟨nativeTokens, m₂, htokens, h⟩ := bind_eq_ok.1 h
    obtain ⟨conditions, m₃, hconditions, h⟩ := bind_eq_ok.1 h
    obtain ⟨features, m₄, hfeatures, h⟩ := bind_eq_ok.1 h
    obtain ⟨_, m₅, hreq, h⟩ := bind_eq_ok.1 h
    obtain ⟨rfl, rfl⟩ := pure_eq_ok.1 h
    obtain ⟨hv, rfl⟩ := require_eq_ok.1 hreq
    rw [LawfulUnpack.eq_pack_append hamount, LawfulUnpack.eq_pack_append htokens,
      LawfulUnpack.eq_pack_append hconditions, LawfulUnpack.eq_pack_append hfeatures]
    refine ⟨?_, hv⟩
    show _ = pack amount ++ pack nativeTokens ++ pack conditions ++ pack features ++ _
    simp only [List.append_assoc]
  complete {o} hv := by
    obtain ⟨hamount, htokens, hrules⟩ := verify_eq_ok.1 hv
    obtain ⟨hconditions, hfeatures, -⟩ := OutputRules.verify_eq_ok.1 hrules
    refine .congr (.bind (LawfulPackable.complete (a := o.amount) hamount) <|
      .bind (LawfulPackable.complete (a := o.nativeTokens) htokens) <|
      .bind (LawfulPackable.complete (a := o.unlockConditions) hconditions) <|
      .checked (LawfulPackable.complete (a := o.features) hfeatures) hv _) ?_
    show _ = pack o.amount ++ pack o.nativeTokens ++ pack o.unlockConditions ++ pack o.features
    simp only [List.append_assoc]

end BasicOutput

namespace AliasOutput

theorem verify_eq_ok {o : AliasOutput} : o.verify = .ok () ↔
    o.amount.verify = .ok () ∧ o.nativeTokens.verify = .ok () ∧
      o.stateMetadata.length ≤ greatestMetadata ∧
      rules.verify o.unlockConditions o.features o.immutableFeatures = .ok () := by
  unfold verify
  rw [andThen_eq_ok, andThen_eq_ok]
  by_cases hlen : greatestMetadata < o.stateMetadata.length
  · simp [hlen, bind, Except.bind, throw, throwThe, MonadExceptOf.throw, Nat.not_le_of_lt hlen]
  · simp [hlen, Nat.le_of_not_lt hlen]

instance lawfulPackable : LawfulPackable AliasOutput where
  stable checking :=
    .bind (LawfulUnpack.stable checking) fun _ => .bind (LawfulUnpack.stable checking) fun _ =>
    .bind (LawfulUnpack.stable checking) fun _ => .bind .word32 fun _ =>
    .bind (.sized ..) fun _ => .bind .word32 fun _ =>
    .bind (LawfulUnpack.stable checking) fun _ => .bind (LawfulUnpack.stable checking) fun _ =>
    .bind (LawfulUnpack.stable checking) fun _ => .bind (.require ..) fun _ => .pure _
  cautious :=
    .bind LawfulUnpack.cautious fun _ => .bind LawfulUnpack.cautious fun _ =>
    .bind LawfulUnpack.cautious fun _ => .bind (.refl _) fun _ =>
    .bind (.sized _ _ _ _) fun _ => .bind (.refl _) fun _ =>
    .bind LawfulUnpack.cautious fun _ => .bind LawfulUnpack.cautious fun _ =>
    .bind LawfulUnpack.cautious fun _ => .bind (.require _) fun _ => .refl _
  sound {checking input rest o} h := by
    obtain ⟨amount, m₁, hamount, h⟩ := bind_eq_ok.1 h
    obtain ⟨nativeTokens, m₂, htokens, h⟩ := bind_eq_ok.1 h
    obtain ⟨aliasId, m₃, hid, h⟩ := bind_eq_ok.1 h
    obtain ⟨stateIndex, m₄, hindex, h⟩ := bind_eq_ok.1 h
    obtain ⟨stateMetadata, m₅, hmetadata, h⟩ := bind_eq_ok.1 h
    obtain ⟨foundryCounter, m₆, hcounter, h⟩ := bind_eq_ok.1 h
    obtain ⟨conditions, m₇, hconditions, h⟩ := bind_eq_ok.1 h
    obtain ⟨features, m₈, hfeatures, h⟩ := bind_eq_ok.1 h
    obtain ⟨immutableFeatures, m₉, himmutable, h⟩ := bind_eq_ok.1 h
    obtain ⟨_, m₁₀, hreq, h⟩ := bind_eq_ok.1 h
    obtain ⟨rfl, rfl⟩ := pure_eq_ok.1 h
    obtain ⟨hv, rfl⟩ := require_eq_ok.1 hreq
    rw [LawfulUnpack.eq_pack_append hamount, LawfulUnpack.eq_pack_append htokens,
      LawfulUnpack.eq_pack_append hid, word32_eq_ok.1 hindex, (sized_sound hmetadata).1,
      word32_eq_ok.1 hcounter, LawfulUnpack.eq_pack_append hconditions,
      LawfulUnpack.eq_pack_append hfeatures, LawfulUnpack.eq_pack_append himmutable]
    refine ⟨?_, hv⟩
    show _ = pack amount ++ pack nativeTokens ++ pack aliasId ++
      Bytes.littleEndian 4 stateIndex.toNat ++ packSized 2 stateMetadata ++
      Bytes.littleEndian 4 foundryCounter.toNat ++ pack conditions ++ pack features ++
      pack immutableFeatures ++ _
    simp only [List.append_assoc]
  complete {o} hv := by
    obtain ⟨hamount, htokens, hmetadata, hrules⟩ := verify_eq_ok.1 hv
    obtain ⟨hconditions, hfeatures, himmutable, -⟩ := OutputRules.verify_eq_ok.1 hrules
    refine .congr (.bind (LawfulPackable.complete (a := o.amount) hamount) <|
      .bind (LawfulPackable.complete (a := o.nativeTokens) htokens) <|
      .bind (LawfulPackable.complete (a := o.aliasId) rfl) <|
      .bind (.word32 o.stateIndex) <|
      .bind (.sized (by decide) (Nat.zero_le _) hmetadata) <|
      .bind (.word32 o.foundryCounter) <|
      .bind (LawfulPackable.complete (a := o.unlockConditions) hconditions) <|
      .bind (LawfulPackable.complete (a := o.features) hfeatures) <|
      .checked (LawfulPackable.complete (a := o.immutableFeatures) himmutable) hv _) ?_
    show _ = pack o.amount ++ pack o.nativeTokens ++ pack o.aliasId ++
      Bytes.littleEndian 4 o.stateIndex.toNat ++ packSized 2 o.stateMetadata ++
      Bytes.littleEndian 4 o.foundryCounter.toNat ++ pack o.unlockConditions ++
      pack o.features ++ pack o.immutableFeatures
    simp only [List.append_assoc]

end AliasOutput

namespace FoundryOutput

theorem verify_eq_ok {o : FoundryOutput} : o.verify = .ok () ↔
    o.amount.verify = .ok () ∧ o.nativeTokens.verify = .ok () ∧ o.tokenScheme.verify = .ok () ∧
      rules.verify o.unlockConditions o.features o.immutableFeatures = .ok () := by
  rw [verify, andThen_eq_ok, andThen_eq_ok, andThen_eq_ok]

instance lawfulPackable : LawfulPackable FoundryOutput where
  stable checking :=
    .bind (LawfulUnpack.stable checking) fun _ => .bind (LawfulUnpack.stable checking) fun _ =>
    .bind .word32 fun _ => .bind (LawfulUnpack.stable checking) fun _ =>
    .bind (LawfulUnpack.stable checking) fun _ => .bind (LawfulUnpack.stable checking) fun _ =>
    .bind (LawfulUnpack.stable checking) fun _ => .bind (.require ..) fun _ => .pure _
  cautious :=
    .bind LawfulUnpack.cautious fun _ => .bind LawfulUnpack.cautious fun _ =>
    .bind (.refl _) fun _ => .bind LawfulUnpack.cautious fun _ =>
    .bind LawfulUnpack.cautious fun _ => .bind LawfulUnpack.cautious fun _ =>
    .bind LawfulUnpack.cautious fun _ => .bind (.require _) fun _ => .refl _
  sound {checking input rest o} h := by
    obtain ⟨amount, m₁, hamount, h⟩ := bind_eq_ok.1 h
    obtain ⟨nativeTokens, m₂, htokens, h⟩ := bind_eq_ok.1 h
    obtain ⟨serialNumber, m₃, hnumber, h⟩ := bind_eq_ok.1 h
    obtain ⟨tokenScheme, m₄, hscheme, h⟩ := bind_eq_ok.1 h
    obtain ⟨conditions, m₅, hconditions, h⟩ := bind_eq_ok.1 h
    obtain ⟨features, m₆, hfeatures, h⟩ := bind_eq_ok.1 h
    obtain ⟨immutableFeatures, m₇, himmutable, h⟩ := bind_eq_ok.1 h
    obtain ⟨_, m₈, hreq, h⟩ := bind_eq_ok.1 h
    obtain ⟨rfl, rfl⟩ := pure_eq_ok.1 h
    obtain ⟨hv, rfl⟩ := require_eq_ok.1 hreq
    rw [LawfulUnpack.eq_pack_append hamount, LawfulUnpack.eq_pack_append htokens,
      word32_eq_ok.1 hnumber, LawfulUnpack.eq_pack_append hscheme,
      LawfulUnpack.eq_pack_append hconditions, LawfulUnpack.eq_pack_append hfeatures,
      LawfulUnpack.eq_pack_append himmutable]
    refine ⟨?_, hv⟩
    show _ = pack amount ++ pack nativeTokens ++ Bytes.littleEndian 4 serialNumber.toNat ++
      pack tokenScheme ++ pack conditions ++ pack features ++ pack immutableFeatures ++ _
    simp only [List.append_assoc]
  complete {o} hv := by
    obtain ⟨hamount, htokens, hscheme, hrules⟩ := verify_eq_ok.1 hv
    obtain ⟨hconditions, hfeatures, himmutable, -⟩ := OutputRules.verify_eq_ok.1 hrules
    refine .congr (.bind (LawfulPackable.complete (a := o.amount) hamount) <|
      .bind (LawfulPackable.complete (a := o.nativeTokens) htokens) <|
      .bind (.word32 o.serialNumber) <|
      .bind (LawfulPackable.complete (a := o.tokenScheme) hscheme) <|
      .bind (LawfulPackable.complete (a := o.unlockConditions) hconditions) <|
      .bind (LawfulPackable.complete (a := o.features) hfeatures) <|
      .checked (LawfulPackable.complete (a := o.immutableFeatures) himmutable) hv _) ?_
    show _ = pack o.amount ++ pack o.nativeTokens ++ Bytes.littleEndian 4 o.serialNumber.toNat ++
      pack o.tokenScheme ++ pack o.unlockConditions ++ pack o.features ++ pack o.immutableFeatures
    simp only [List.append_assoc]

end FoundryOutput

namespace NftOutput

theorem verify_eq_ok {o : NftOutput} : o.verify = .ok () ↔
    o.amount.verify = .ok () ∧ o.nativeTokens.verify = .ok () ∧
      rules.verify o.unlockConditions o.features o.immutableFeatures = .ok () := by
  rw [verify, andThen_eq_ok, andThen_eq_ok]

instance lawfulPackable : LawfulPackable NftOutput where
  stable checking :=
    .bind (LawfulUnpack.stable checking) fun _ => .bind (LawfulUnpack.stable checking) fun _ =>
    .bind (LawfulUnpack.stable checking) fun _ => .bind (LawfulUnpack.stable checking) fun _ =>
    .bind (LawfulUnpack.stable checking) fun _ => .bind (LawfulUnpack.stable checking) fun _ =>
    .bind (.require ..) fun _ => .pure _
  cautious :=
    .bind LawfulUnpack.cautious fun _ => .bind LawfulUnpack.cautious fun _ =>
    .bind LawfulUnpack.cautious fun _ => .bind LawfulUnpack.cautious fun _ =>
    .bind LawfulUnpack.cautious fun _ => .bind LawfulUnpack.cautious fun _ =>
    .bind (.require _) fun _ => .refl _
  sound {checking input rest o} h := by
    obtain ⟨amount, m₁, hamount, h⟩ := bind_eq_ok.1 h
    obtain ⟨nativeTokens, m₂, htokens, h⟩ := bind_eq_ok.1 h
    obtain ⟨nftId, m₃, hid, h⟩ := bind_eq_ok.1 h
    obtain ⟨conditions, m₄, hconditions, h⟩ := bind_eq_ok.1 h
    obtain ⟨features, m₅, hfeatures, h⟩ := bind_eq_ok.1 h
    obtain ⟨immutableFeatures, m₆, himmutable, h⟩ := bind_eq_ok.1 h
    obtain ⟨_, m₇, hreq, h⟩ := bind_eq_ok.1 h
    obtain ⟨rfl, rfl⟩ := pure_eq_ok.1 h
    obtain ⟨hv, rfl⟩ := require_eq_ok.1 hreq
    rw [LawfulUnpack.eq_pack_append hamount, LawfulUnpack.eq_pack_append htokens,
      LawfulUnpack.eq_pack_append hid, LawfulUnpack.eq_pack_append hconditions,
      LawfulUnpack.eq_pack_append hfeatures, LawfulUnpack.eq_pack_append himmutable]
    refine ⟨?_, hv⟩
    show _ = pack amount ++ pack nativeTokens ++ pack nftId ++ pack conditions ++ pack features ++
      pack immutableFeatures ++ _
    simp only [List.append_assoc]
  complete {o} hv := by
    obtain ⟨hamount, htokens, hrules⟩ := verify_eq_ok.1 hv
    obtain ⟨hconditions, hfeatures, himmutable, -⟩ := OutputRules.verify_eq_ok.1 hrules
    refine .congr (.bind (LawfulPackable.complete (a := o.amount) hamount) <|
      .bind (LawfulPackable.complete (a := o.nativeTokens) htokens) <|
      .bind (LawfulPackable.complete (a := o.nftId) rfl) <|
      .bind (LawfulPackable.complete (a := o.unlockConditions) hconditions) <|
      .bind (LawfulPackable.complete (a := o.features) hfeatures) <|
      .checked (LawfulPackable.complete (a := o.immutableFeatures) himmutable) hv _) ?_
    show _ = pack o.amount ++ pack o.nativeTokens ++ pack o.nftId ++ pack o.unlockConditions ++
      pack o.features ++ pack o.immutableFeatures
    simp only [List.append_assoc]

end NftOutput

end UtxoCodec
