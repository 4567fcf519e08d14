import UtxoCodec.Proofs.Collection
import UtxoCodec.Proofs.Draft.Finish

/-!
# The order in which a draft is filled

Two drafts that differ only in the order of their native tokens, unlock conditions and features are
finished alike, with the same output or the same error. All four lists enter an output through
collections, and those do not see the order (`ofList_of_perm`); nothing after the outline looks at
the lists again. Main statement: `Draft.finish_eq_of_reordered`.
-/

namespace UtxoCodec

/-- The subjects are the same but for the order of their immutable features. -/
inductive DraftSubject.Reordered : DraftSubject → DraftSubject → Prop
  | basic : Reordered .basic .basic
  | «alias» (id : AliasId) (stateIndex : Option UInt32) (stateMetadata : Option Bytes)
      (foundryCounter : Option UInt32) {fs fs' : Option (List Feature)}
      (features : Option.Rel List.Perm fs fs') :
      Reordered (.alias id stateIndex stateMetadata foundryCounter fs)
        (.alias id stateIndex stateMetadata foundryCounter fs')
  | foundry (serialNumber : UInt32) (tokenScheme : TokenScheme) {fs fs' : Option (List Feature)}
      (features : Option.Rel List.Perm fs fs') :
      Reordered (.foundry serialNumber tokenScheme fs) (.foundry serialNumber tokenScheme fs')
  | nft (id : NftId) {fs fs' : Option (List Feature)} (features : Option.Rel List.Perm fs fs') :
      Reordered (.nft id fs) (.nft id fs')

/-- The drafts are the same but for the order of what their lists hold. -/
structure Draft.Reordered (d d' : Draft) : Prop where
  amount : d.amount = d'.amount
  nativeTokens : Option.Rel List.Perm d.nativeTokens d'.nativeTokens
  unlockConditions : d.unlockConditions.Perm d'.unlockConditions
  features : Option.Rel List.Perm d.features d'.features
  subject : d.subject.Reordered d'.subject

namespace Draft

variable {d d' : Draft}

/-- A list that was not begun is an empty one. -/
theorem perm_getD {α : Type} {items others : Option (List α)}
    (h : Option.Rel List.Perm items others) : (items.getD []).Perm (others.getD []) := by
  cases h with
  | none => exact .refl []
  | some h => exact h

theorem outline_eq_of_reordered (h : d.Reordered d') : d.outline = d'.outline := by
  have htokens := NativeTokens.ofList_of_perm (perm_getD h.nativeTokens)
  have hconditions := UnlockConditions.ofList_of_perm h.unlockConditions
  have hfeatures := Features.ofList_of_perm (perm_getD h.features)
  have hsubject := h.subject
  unfold outline
  rw [htokens, hconditions, hfeatures]
  -- what is left of the outline is made kind by kind
  generalize d.subject = s, d'.subject = s' at hsubject
  cases hsubject with
  | basic => rfl
  | «alias» _ _ _ _ himmutable | foundry _ _ himmutable | nft _ himmutable =>
    simp only [Features.ofList_of_perm (perm_getD himmutable)]

/-- The order in which a draft is filled has no influence on how it is finished. -/
theorem finish_eq_of_reordered (h : d.Reordered d') (p : ProtocolParameters) :
    d.finish p = d'.finish p := by
  unfold finish settleAmount
  rw [outline_eq_of_reordered h, h.amount]

/-- Conditions and features in decreasing order give the output of those in increasing order. -/
theorem finish_eq_of_reordered_of_decreasing :
    let owner := UnlockCondition.address (.ed25519 .null)
    let sender := Feature.sender (.ed25519 .null)
    let o : BasicOutput := ⟨⟨100000⟩, .empty, ⟨[owner, .timelock ⟨1⟩]⟩, ⟨[sender, .tag [7]]⟩⟩
    let d := (basic.addFeature sender).addFeature (.tag [7])
    let d' := (basic.addFeature (.tag [7])).addFeature sender
    let filled := (d.addUnlockCondition owner).addUnlockCondition (.timelock ⟨1⟩)
    let filled' := (d'.addUnlockCondition (.timelock ⟨1⟩)).addUnlockCondition owner
    (filled'.withAmount ⟨100000⟩).Reordered (filled.withAmount ⟨100000⟩) ∧
      (filled'.withAmount ⟨100000⟩).finish .shimmer = .ok (.basic o) := by
  intro owner sender o d d' filled filled'
  have hreordered : (filled'.withAmount ⟨100000⟩).Reordered (filled.withAmount ⟨100000⟩) :=
    ⟨rfl, .none, .swap .., .some (.swap ..), .basic⟩
  have houtline : filled.outline = .ok ((Output.basic o).withAmount .zero) :=
    outline_basic rfl NativeTokens.ofList_nil (UnlockConditions.ofList_items rfl)
      (Features.ofList_items rfl)
  have hfinish : (filled.withAmount ⟨100000⟩).finish .shimmer = .ok (.basic o) :=
    finish_withAmount_eq_ok.2 ⟨_, houtline, ⟨100000, rfl⟩, rfl, rfl⟩
  rw [finish_eq_of_reordered hreordered]
  exact ⟨hreordered, hfinish⟩

end Draft

end UtxoCodec
