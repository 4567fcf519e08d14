import Mathlib.Algebra.Group.Action.Defs
import Mathlib.Algebra.Order.BigOperators.Group.List
import Mathlib.Algebra.Order.Group.Nat
import UtxoCodec.Proofs.Packing.Decode

/-!
# Lengths of binary forms

Whatever verifies has a short binary form: every list has a greatest count and every byte string a
greatest length, so a bound for a collection is its count times a bound for its items. The bounds
are not sharp; they add up to `Output.greatestLength` for outputs of known kinds
(`Output.length_pack_le`). The body of an opaque output has no bound.
-/

namespace UtxoCodec

/-! ## Pieces -/

@[simp] theorem length_packSized (width : Nat) (bytes : Bytes) :
    (packSized width bytes).length = width + bytes.length := by
  rw [packSized, List.length_append, Bytes.length_littleEndian]

theorem length_packCounted_le {α : Type} {packItem : α → Bytes} {items : List α}
    {greatest bound : Nat} (hcount : items.length ≤ greatest)
    (hitem : ∀ a ∈ items, (packItem a).length ≤ bound) :
    (packCounted packItem items).length ≤ 1 + greatest * bound := by
  have hsum : (items.map fun a => (packItem a).length).sum ≤ items.length * bound := by
    have hbound := List.sum_le_card_nsmul (items.map fun a => (packItem a).length) bound
      (List.forall_mem_map.2 hitem)
    rwa [List.length_map, smul_eq_mul] at hbound
  rw [packCounted, List.length_append, Bytes.length_littleEndian, List.length_flatMap]
  exact Nat.add_le_add_left (hsum.trans (Nat.mul_le_mul_right bound hcount)) 1

@[simp] theorem Amount.length_pack (a : Amount) : (pack a).length = 8 :=
  Bytes.length_littleEndian 8 _

@[simp] theorem Identifier.length_pack {kind : IdKind} (id : Identifier kind) :
    (pack id).length = kind.size :=
  id.length_eq

@[simp] theorem Address.length_idBytes (a : Address) : a.idBytes.length = 32 := by
  cases a with
  | ed25519 id | «alias» id | nft id => exact id.length_eq

theorem NativeToken.length_pack (t : NativeToken) : (pack t).length = 70 := by
  show (t.id.bytes ++ Bytes.littleEndian 32 t.amount.toNat).length = 70
  rw [List.length_append, t.id.length_eq, Bytes.length_littleEndian]
  rfl

/-! ## Elements and collections that verify -/

theorem TokenScheme.length_pack {s : TokenScheme} (h : s.verify = .ok ()) :
    (pack s).length = 97 := by
  cases s with
  | simple s => simp [pack, packWord256]
  | unknown u => cases h

theorem UnlockCondition.length_pack_le {c : UnlockCondition} (h : c.verify = .ok ()) :
    (pack c).length ≤ 42 := by
  cases c with
  | unknown u => cases h
  | _ => simp [pack, packBody]

theorem Feature.length_pack_le {f : Feature} (h : f.verify = .ok ()) : (pack f).length ≤ 8195 := by
  cases f with
  | sender a => simp [pack]
  | issuer a => simp [pack]
  | metadata data =>
    have hlength : data.length ≤ 8192 := (verifyLength_eq_ok.1 h).2
    simp [pack]
    omega
  | tag bytes =>
    have hlength : bytes.length ≤ 64 := (verifyLength_eq_ok.1 h).2
    simp [pack]
    omega
  | unknown u => cases h

theorem NativeTokens.length_pack_le {ts : NativeTokens} (h : ts.verify = .ok ()) :
    (pack ts).length ≤ 4481 := by
  have hcount : ts.items.length ≤ 64 := (verify_eq_ok.1 h).1
  exact length_packCounted_le hcount fun t _ => t.length_pack.le

theorem UnlockConditions.length_pack_le {cs : UnlockConditions} (h : cs.verify = .ok ()) :
    (pack cs).length ≤ 295 := by
  obtain ⟨hkinds, hitems⟩ := verify_eq_ok.1 h
  have hcount : cs.items.length ≤ 7 := length_le_of_verifyKinds hkinds
  exact length_packCounted_le hcount fun c hc =>
    UnlockCondition.length_pack_le (hitems c hc)

theorem Features.length_pack_le {fs : Features} (h : fs.verify = .ok ()) :
    (pack fs).length ≤ 32781 := by
  obtain ⟨hkinds, hitems⟩ := verify_eq_ok.1 h
  have hcount : fs.items.length ≤ 4 := length_le_of_verifyKinds hkinds
  exact length_packCounted_le hcount fun f hf => Feature.length_pack_le (hitems f hf)

/-! ## Outputs -/

/-- The collections that every rule set covers, together. -/
theorem OutputRules.length_pack_le {rules : OutputRules} {conditions : UnlockConditions}
    {features immutableFeatures : Features}
    (h : rules.verify conditions features immutableFeatures = .ok ()) :
    (pack conditions).length + (pack features).length + (pack immutableFeatures).length ≤
      295 + 32781 + 32781 := by
  obtain ⟨hconditions, hfeatures, himmutable, -⟩ := verify_eq_ok.1 h
  have := UnlockConditions.length_pack_le hconditions
  have := Features.length_pack_le hfeatures
  have := Features.length_pack_le himmutable
  omega

theorem BasicOutput.length_pack (o : BasicOutput) :
    (pack o).length = 8 + (pack o.nativeTokens).length + (pack o.unlockConditions).length +
      (pack o.features).length := by
  show (pack o.amount ++ pack o.nativeTokens ++ pack o.unlockConditions ++
    pack o.features).length = _
  simp only [List.length_append, Amount.length_pack]

theorem AliasOutput.length_pack (o : AliasOutput) :
    (pack o).length = 8 + (pack o.nativeTokens).length + 32 + 4 + (2 + o.stateMetadata.length) +
      4 + (pack o.unlockConditions).length + (pack o.features).length +
      (pack o.immutableFeatures).length := by
  show (pack o.amount ++ pack o.nativeTokens ++ pack o.aliasId ++
    Bytes.littleEndian 4 o.stateIndex.toNat ++ packSized 2 o.stateMetadata ++
    Bytes.littleEndian 4 o.foundryCounter.toNat ++ pack o.unlockConditions ++ pack o.features ++
    pack o.immutableFeatures).length = _
  simp only [List.length_append, Amount.length_pack, Identifier.length_pack, IdKind.size,
    Bytes.length_littleEndian, length_packSized]

theorem FoundryOutput.length_pack (o : FoundryOutput) :
    (pack o).length = 8 + (pack o.nativeTokens).length + 4 + (pack o.tokenScheme).length +
      (pack o.unlockConditions).length + (pack o.features).length +
      (pack o.immutableFeatures).length := by
  show (pack o.amount ++ pack o.nativeTokens ++ Bytes.littleEndian 4 o.serialNumber.toNat ++
    pack o.tokenScheme ++ pack o.unlockConditions ++ pack o.features ++
    pack o.immutableFeatures).length = _
  simp only [List.length_append, Amount.length_pack, Bytes.length_littleEndian]

theorem NftOutput.length_pack (o : NftOutput) :
    (pack o).length = 8 + (pack o.nativeTokens).length + 32 + (pack o.unlockConditions).length +
      (pack o.features).length + (pack o.immutableFeatures).length := by
  show (pack o.amount ++ pack o.nativeTokens ++ pack o.nftId ++ pack o.unlockConditions ++
    pack o.features ++ pack o.immutableFeatures).length = _
  simp only [List.length_append, Amount.length_pack, Identifier.length_pack, IdKind.size]

namespace Output

/-- A length that no output of a known kind exceeds: that of an alias output with every list and
byte string at its bound. -/
def greatestLength : Nat :=
  1 + 8 + 4481 + 32 + 4 + (2 + 8192) + 4 + (295 + 32781 + 32781)

theorem length_pack_le {o : Output} (hknown : o.IsKnown) (h : o.verify = .ok ()) :
    o.pack.length ≤ greatestLength := by
  unfold greatestLength
  cases o with
  | treasury o => simp [pack, Packable.pack]
  | basic o =>
    obtain ⟨-, htokens, hrules⟩ := BasicOutput.verify_eq_ok.1 h
    have hlists := OutputRules.length_pack_le hrules
    have hnative := NativeTokens.length_pack_le htokens
    rw [pack, List.length_cons, o.length_pack]
    omega
  | «alias» o =>
    obtain ⟨-, htokens, hmetadata, hrules⟩ := AliasOutput.verify_eq_ok.1 h
    have hlists := OutputRules.length_pack_le hrules
    have hnative := NativeTokens.length_pack_le htokens
    have hstate : o.stateMetadata.length ≤ 8192 := hmetadata
    rw [pack, List.length_cons, o.length_pack]
    omega
  | foundry o =>
    obtain ⟨-, htokens, hscheme, hrules⟩ := FoundryOutput.verify_eq_ok.1 h
    have hlists := OutputRules.length_pack_le hrules
    have hnative := NativeTokens.length_pack_le htokens
    have hfixed := TokenScheme.length_pack hscheme
    rw [pack, List.length_cons, o.length_pack]
    omega
  | nft o =>
    obtain ⟨-, htokens, hrules⟩ := NftOutput.verify_eq_ok.1 h
    have hlists := OutputRules.length_pack_le hrules
    have hnative := NativeTokens.length_pack_le htokens
    rw [pack, List.length_cons, o.length_pack]
    omega
  | unknown u => exact absurd rfl (hknown u)

end Output

end UtxoCodec
