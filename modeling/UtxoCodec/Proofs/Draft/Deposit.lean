import UtxoCodec.Proofs.Collection
import UtxoCodec.Proofs.Draft.Finish
import UtxoCodec.Proofs.Protocol.Rent

/-!
# Drafts without an amount

Where a draft sets no amount, the storage deposit is computed for an output whose amount is still
missing and becomes the amount. It is the deposit of the finished output, too: amounts have one
packed length (`length_pack_withAmount`), so the cost of an output does not depend on its amount as
long as it verifies (`RentStructure.rentCost_withAmount`). Main statement:
`Draft.omitted_amount_is_deposit`.
-/

namespace UtxoCodec

open Outcome

/-! ## Costs do not depend on amounts -/

/-- Every amount takes up the same space in an output. -/
theorem length_pack_withAmount (o : Output) (amount : Amount) :
    (o.withAmount amount).pack.length = o.pack.length := by
  cases o with
  | unknown u => rfl
  | treasury o | basic o | «alias» o | foundry o | nft o =>
    -- of the parts only the amount differs, and it has eight bytes in both
    simp only [Output.withAmount, Output.pack, Packable.pack, List.length_cons,
      List.length_append, Bytes.length_littleEndian]

namespace RentStructure

variable {r : RentStructure} {o : Output}

/-- Only outputs that verify have a cost. -/
theorem verify_of_rentCost {v : UInt64} (h : r.rentCost o = .ok v) : o.verify = .ok () :=
  (rentCost_eq_ok.1 h).1

/-- Outputs that differ in their amount and verify have the same cost. -/
theorem rentCost_withAmount {amount : Amount} (h : o.verify = .ok ())
    (h' : (o.withAmount amount).verify = .ok ()) :
    r.rentCost (o.withAmount amount) = r.rentCost o := by
  have hlength : packedLength (o.withAmount amount) = packedLength o :=
    length_pack_withAmount o amount
  unfold rentCost
  rw [h, h', hlength]

end RentStructure

/-! ## Finishing without an amount -/

namespace Draft

variable {d : Draft} {p : ProtocolParameters} {o : Output}

/-- With no amount set, the amount is the cost of the outline. -/
theorem settleAmount_of_none (hnone : d.amount = none) {outline : Output} {amount : Amount} :
    d.settleAmount p outline = .ok amount ↔
      ∃ v, p.rentStructure.rentCost outline = .ok v ∧ .ofUInt64 v = amount := by
  unfold settleAmount
  rw [hnone]
  exact map_eq_ok

/-- Where no amount is set, the finished output has its own storage deposit as amount. Whatever
amount the draft is finished with instead, the output differs in the amount only and has the same
deposit; with that deposit set it is the same output. -/
theorem omitted_amount_is_deposit (hnone : d.amount = none) (h : d.finish p = .ok o) :
    ∃ v : UInt64, p.rentStructure.rentCost o = .ok v ∧ o.amount? = some (.ofUInt64 v) ∧
      o.verify = .ok () ∧ 1 ≤ v.toNat ∧ v.toNat ≤ p.tokenSupply.value ∧
      (∀ amount o', (d.withAmount amount).finish p = .ok o' →
        o' = o.withAmount amount ∧ o'.amount? = some amount ∧
          p.rentStructure.rentCost o' = .ok v) ∧
      (d.withAmount (.ofUInt64 v)).finish p = .ok o := by
  obtain ⟨outline, _, houtline, hsettle, hamount, hverify, rfl⟩ := finish_eq_ok.1 h
  obtain ⟨v, hcost, rfl⟩ := (settleAmount_of_none hnone).1 hsettle
  have hkind := draftKind?_of_outline houtline
  have hprovisional := RentStructure.verify_of_rentCost hcost
  obtain ⟨hleast, hgreatest⟩ :=
    ProtocolParameters.le_tokenSupply_of_verifyAmount hamount.choose_spec
  refine ⟨v, ?_, Output.amount?_withAmount hkind _, hverify, hleast, hgreatest, ?_, ?_⟩
  · rw [RentStructure.rentCost_withAmount hprovisional hverify]
    exact hcost
  · intro amount o' hfinish
    obtain ⟨outline', houtline', -, hverify', rfl⟩ := finish_withAmount_eq_ok.1 hfinish
    rw [houtline] at houtline'
    cases houtline'
    refine ⟨(outline.withAmount_withAmount _ _).symm, Output.amount?_withAmount hkind amount, ?_⟩
    rw [RentStructure.rentCost_withAmount hprovisional hverify']
    exact hcost
  · exact finish_withAmount_eq_ok.2 ⟨outline, houtline, hamount, hverify, rfl⟩

/-- An output with one condition costs 42600 base tokens under the parameters of Shimmer. -/
theorem omitted_amount_is_deposit_of_one_condition :
    let conditions : UnlockConditions := ⟨[.address (.ed25519 .null)]⟩
    let outline : BasicOutput := ⟨.zero, .empty, conditions, .empty⟩
    let d := basic.addUnlockCondition (.address (.ed25519 .null))
    d.amount = none ∧ d.finish .shimmer = .ok (.basic { outline with amount := ⟨42600⟩ }) ∧
      (d.withAmount ⟨42600⟩).finish .shimmer = .ok (.basic { outline with amount := ⟨42600⟩ }) := by
  intro conditions outline d
  have houtline : d.outline = .ok (.basic outline) :=
    outline_basic rfl NativeTokens.ofList_nil (UnlockConditions.ofList_items rfl)
      Features.ofList_nil
  have hfinish : d.finish .shimmer = .ok (.basic { outline with amount := ⟨42600⟩ }) := by
    have hcost :
        ProtocolParameters.shimmer.rentStructure.rentCost (.basic outline) = .ok 42600 := by
      have hverify : (Output.basic outline).verify = .ok () := by rfl
      have hlength : packedLength (Output.basic outline) = 46 := by decide +kernel
      unfold RentStructure.rentCost
      rw [hverify, hlength]
      rfl
    have hsupply : ProtocolParameters.shimmer.verifyAmount ⟨42600⟩ = .ok 42600 := by
      rfl
    exact finish_eq_ok.2 ⟨.basic outline, ⟨42600⟩, houtline,
      (settleAmount_of_none rfl).2 ⟨42600, hcost, rfl⟩, ⟨_, hsupply⟩, rfl, rfl⟩
  obtain ⟨v, -, hamount, -, -, -, -, hagain⟩ := omitted_amount_is_deposit rfl hfinish
  refine ⟨rfl, hfinish, ?_⟩
  rw [← Option.some.inj hamount] at hagain
  exact hagain

end Draft

end UtxoCodec
