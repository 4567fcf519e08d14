import UtxoCodec.Draft
import UtxoCodec.Proofs.Protocol.Supply

/-!
# Finished drafts

Finishing is inverted once: a draft is finished if and only if it has an outline, an amount is
settled for it that is within the token supply, and the outline with that amount verifies
(`Draft.finish_eq_ok`). What is known of finished outputs is read off these steps.
-/

namespace UtxoCodec

open Outcome

/-! ## Outputs of drafts -/

/-- The kind of draft that gives an output, if there is one. -/
def Output.draftKind? : Output → Option DraftKind
  | .basic _ => some .basic
  | .alias _ => some .alias
  | .foundry _ => some .foundry
  | .nft _ => some .nft
  | .treasury _ | .unknown _ => none

theorem Output.draftKind?_withAmount (o : Output) (amount : Amount) :
    (o.withAmount amount).draftKind? = o.draftKind? := by
  cases o <;> rfl

theorem Output.amount?_withAmount {o : Output} {kind : DraftKind} (h : o.draftKind? = some kind)
    (amount : Amount) : (o.withAmount amount).amount? = some amount := by
  cases o with
  | unknown u => cases h
  | _ => rfl

@[simp] theorem Output.withAmount_withAmount (o : Output) (first last : Amount) :
    (o.withAmount first).withAmount last = o.withAmount last := by
  cases o <;> rfl

namespace Draft

variable {d : Draft} {p : ProtocolParameters} {o : Output}

theorem draftKind?_of_outline (h : d.outline = .ok o) : o.draftKind? = some d.kind := by
  obtain ⟨_, -, h⟩ := bind_eq_ok.1 h
  obtain ⟨_, -, h⟩ := bind_eq_ok.1 h
  obtain ⟨_, -, h⟩ := bind_eq_ok.1 h
  unfold kind
  cases hsubject : d.subject with
  | basic =>
    rw [hsubject] at h
    cases h
    rfl
  | _ =>
    -- the other kinds have immutable features to be collected first
    rw [hsubject] at h
    obtain ⟨_, -, h⟩ := bind_eq_ok.1 h
    cases h
    rfl

theorem outline_basic {nativeTokens : NativeTokens} {unlockConditions : UnlockConditions}
    {features : Features} (hsubject : d.subject = .basic)
    (htokens : NativeTokens.ofList (d.nativeTokens.getD []) = .ok nativeTokens)
    (hconditions : UnlockConditions.ofList d.unlockConditions = .ok unlockConditions)
    (hfeatures : Features.ofList (d.features.getD []) = .ok features) :
    d.outline = .ok (.basic ⟨.zero, nativeTokens, unlockConditions, features⟩) := by
  unfold outline
  rw [htokens, hconditions, hfeatures, hsubject]
  rfl

/-- What it takes to finish a draft, and what comes of it. -/
theorem finish_eq_ok : d.finish p = .ok o ↔
    ∃ outline amount, d.outline = .ok outline ∧ d.settleAmount p outline = .ok amount ∧
      (∃ n, p.verifyAmount amount = .ok n) ∧ (outline.withAmount amount).verify = .ok () ∧
      outline.withAmount amount = o := by
  constructor
  · intro h
    obtain ⟨outline, houtline, h⟩ := bind_eq_ok.1 h
    obtain ⟨amount, hsettle, h⟩ := bind_eq_ok.1 h
    obtain ⟨n, hamount, h⟩ := bind_eq_ok.1 h
    obtain ⟨hverify, hresult⟩ := check_eq_ok.1 h
    exact ⟨outline, amount, houtline, hsettle, ⟨n, hamount⟩, hverify, hresult⟩
  · rintro ⟨outline, amount, houtline, hsettle, ⟨n, hamount⟩, hverify, hresult⟩
    refine bind_eq_ok.2 ⟨outline, houtline, bind_eq_ok.2 ⟨amount, hsettle, ?_⟩⟩
    exact bind_eq_ok.2 ⟨n, hamount, check_eq_ok.2 ⟨hverify, hresult⟩⟩

/-- With an amount set, a draft is finished to its outline with that amount. -/
theorem finish_withAmount_eq_ok {amount : Amount} : (d.withAmount amount).finish p = .ok o ↔
    ∃ outline, d.outline = .ok outline ∧ (∃ n, p.verifyAmount amount = .ok n) ∧
      (outline.withAmount amount).verify = .ok () ∧ outline.withAmount amount = o := by
  rw [finish_eq_ok]
  constructor
  · rintro ⟨outline, amount', houtline, hsettle, h⟩
    cases hsettle
    exact ⟨outline, houtline, h⟩
  · rintro ⟨outline, houtline, h⟩
    exact ⟨outline, amount, houtline, rfl, h⟩

/-- A draft that can be finished gives an output that verifies. -/
theorem verify_of_finish (h : d.finish p = .ok o) : o.verify = .ok () := by
  obtain ⟨_, _, -, -, -, hverify, rfl⟩ := finish_eq_ok.1 h
  exact hverify

/-- A finished output is of the draft's kind, with an amount within the token supply. -/
theorem kind_amount_of_finish (h : d.finish p = .ok o) :
    o.draftKind? = some d.kind ∧
      ∃ amount, o.amount? = some amount ∧ 1 ≤ amount.value ∧
        amount.value ≤ p.tokenSupply.value := by
  obtain ⟨outline, amount, houtline, -, ⟨_, hamount⟩, -, rfl⟩ := finish_eq_ok.1 h
  have hkind := draftKind?_of_outline houtline
  refine ⟨?_, amount, Output.amount?_withAmount hkind amount, ?_⟩
  · rw [Output.draftKind?_withAmount, hkind]
  · exact ProtocolParameters.le_tokenSupply_of_verifyAmount hamount

end Draft

end UtxoCodec
