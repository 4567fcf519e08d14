import UtxoCodec.NativeToken
import UtxoCodec.OutputId
import UtxoCodec.Amount
import UtxoCodec.Address
import UtxoCodec.TokenScheme
import UtxoCodec.Proofs.Packing.Lawful

/-!
# Binary forms of identifiers, amounts and tokens

The parts of outputs that hold no tagged collection: identifiers, output identifiers, amounts,
addresses, native tokens and token schemes have lawful binary forms.
-/

namespace UtxoCodec

open Unpacker

/-! ## Identifiers -/

instance Identifier.lawfulPackable {kind : IdKind} : LawfulPackable (Identifier kind) where
  stable _ := .bind (.take _) fun _ => .pure _
  cautious := .refl _
  sound {checking input rest a} h := by
    obtain ⟨⟨b, hb⟩, htake, rfl⟩ := map_eq_ok.1 h
    exact ⟨take_eq_ok.1 htake, fun _ => rfl⟩
  complete {a} _ rest := by
    have h : take kind.size (a.bytes ++ rest) = .ok (⟨a.bytes, a.length_eq⟩, rest) :=
      take_eq_ok.2 rfl
    exact bind_of_ok h

namespace OutputId

instance lawfulPackable : LawfulPackable OutputId where
  stable checking :=
    .bind (LawfulUnpack.stable checking) fun _ => .bind (.number 2) fun _ =>
      .bind (.require ..) fun _ => .pure _
  cautious :=
    .bind LawfulUnpack.cautious fun _ => .bind (.refl _) fun _ =>
      .bind (.require _) fun _ => .refl _
  sound {checking input rest a} h := by
    obtain ⟨transactionId, mid, hid, h⟩ := bind_eq_ok.1 h
    obtain ⟨index, mid', hindex, h⟩ := bind_eq_ok.1 h
    obtain ⟨_, mid'', hreq, h⟩ := bind_eq_ok.1 h
    obtain ⟨rfl, rfl⟩ := pure_eq_ok.1 h
    obtain ⟨hv, rfl⟩ := require_eq_ok.1 hreq
    obtain ⟨hlt, rfl⟩ := number_eq_ok.1 hindex
    obtain rfl := LawfulUnpack.eq_pack_append hid
    have hnat : (UInt16.ofNat index).toNat = index := UInt16.toNat_ofNat_of_lt' hlt
    refine ⟨?_, hv⟩
    show _ = transactionId.bytes ++ Bytes.littleEndian 2 (UInt16.ofNat index).toNat ++ mid'
    rw [hnat, List.append_assoc]
    rfl
  complete {a} hv := by
    have hindex : Reads (number 2) (Bytes.littleEndian 2 a.index.toNat) a.index.toNat :=
      .number a.index.toNat_lt
    let make (index : Nat) : OutputId := ⟨a.transactionId, UInt16.ofNat index⟩
    have ha : make a.index.toNat = a := by simp [make]
    have hmake : verify (make a.index.toNat) = .ok () := by
      rw [ha]
      exact hv
    have h : Reads (number 2 >>= fun index =>
        Checking.strict.require (verify (make index)) >>= fun _ => pure (make index))
        (Bytes.littleEndian 2 a.index.toNat) (make a.index.toNat) := .checked hindex hmake make
    rw [ha] at h
    exact .bind (LawfulPackable.complete rfl) h

end OutputId

/-! ## Amounts and addresses -/

namespace Amount

theorem verify_eq_ok {a : Amount} : a.verify = .ok () ↔ a.value < UInt64.size := by
  unfold verify toUInt64
  by_cases h : a.value < UInt64.size <;> simp [h, Except.map]

/-- An amount that verifies is packed as it is. -/
theorem pack_of_verify {a : Amount} (h : a.verify = .ok ()) :
    pack a = Bytes.littleEndian 8 a.value := by
  have hmin : min a.value (UInt64.size - 1) = a.value :=
    Nat.min_eq_left (Nat.le_sub_one_of_lt (verify_eq_ok.1 h))
  show Bytes.littleEndian 8 (min a.value (UInt64.size - 1)) = _
  rw [hmin]

instance lawfulPackable : LawfulPackable Amount where
  stable _ := .bind (.number 8) fun _ => .pure _
  cautious := .refl _
  sound {checking input rest a} h := by
    obtain ⟨n, hn, rfl⟩ := map_eq_ok.1 h
    obtain ⟨hlt, rfl⟩ := number_eq_ok.1 hn
    have hv : (⟨n⟩ : Amount).verify = .ok () := verify_eq_ok.2 hlt
    exact ⟨by rw [pack_of_verify hv], fun _ => hv⟩
  complete {a} hv := by
    rw [pack_of_verify hv]
    exact .map (.number (verify_eq_ok.1 hv)) _

end Amount

namespace Address

instance lawfulPackable : LawfulPackable Address where
  stable checking :=
    .bind .byte fun _ =>
      .ite (.bind (LawfulUnpack.stable checking) fun _ => .pure _) <|
      .ite (.bind (LawfulUnpack.stable checking) fun _ => .pure _) <|
      .ite (.bind (LawfulUnpack.stable checking) fun _ => .pure _) (.throw _)
  cautious := .refl _
  sound {checking input rest a} h := by
    obtain ⟨kind, mid, hkind, h⟩ := bind_eq_ok.1 h
    rw [byte_eq_ok.1 hkind]
    split at h
    · next hk =>
      obtain ⟨hash, hhash, rfl⟩ := map_eq_ok.1 h
      rw [LawfulUnpack.eq_pack_append hhash, hk]
      exact ⟨rfl, fun _ => rfl⟩
    split at h
    · next hk =>
      obtain ⟨id, hid, rfl⟩ := map_eq_ok.1 h
      rw [LawfulUnpack.eq_pack_append hid, hk]
      exact ⟨rfl, fun _ => rfl⟩
    split at h
    · next hk =>
      obtain ⟨id, hid, rfl⟩ := map_eq_ok.1 h
      rw [LawfulUnpack.eq_pack_append hid, hk]
      exact ⟨rfl, fun _ => rfl⟩
    · cases h
  complete {a} _ := by
    cases a with
    | ed25519 hash => exact .bind (.byte 0) (.map (LawfulPackable.complete (a := hash) rfl) _)
    | «alias» id => exact .bind (.byte 8) (.map (LawfulPackable.complete (a := id) rfl) _)
    | nft id => exact .bind (.byte 16) (.map (LawfulPackable.complete (a := id) rfl) _)

end Address

/-! ## Native tokens -/

namespace NativeToken

instance lawfulPackable : LawfulPackable NativeToken where
  stable checking :=
    .bind (LawfulUnpack.stable checking) fun _ => .bind .word256 fun _ =>
      .bind (.require ..) fun _ => .pure _
  cautious :=
    .bind LawfulUnpack.cautious fun _ => .bind (.refl _) fun _ =>
      .bind (.require _) fun _ => .refl _
  sound {checking input rest a} h := by
    obtain ⟨id, mid, hid, h⟩ := bind_eq_ok.1 h
    obtain ⟨amount, mid', hamount, h⟩ := bind_eq_ok.1 h
    obtain ⟨_, mid'', hreq, h⟩ := bind_eq_ok.1 h
    obtain ⟨rfl, rfl⟩ := pure_eq_ok.1 h
    obtain ⟨hv, rfl⟩ := require_eq_ok.1 hreq
    obtain rfl := word256_eq_ok.1 hamount
    obtain rfl := LawfulUnpack.eq_pack_append hid
    exact ⟨(List.append_assoc ..).symm, hv⟩
  complete {a} hv :=
    .bind (LawfulPackable.complete (a := a.id) rfl) (.checked (.word256 a.amount) hv _)

end NativeToken

namespace NativeTokens

theorem verify_eq_ok {ts : NativeTokens} : ts.verify = .ok () ↔
    ts.items.length ≤ greatestCount ∧ (∀ t ∈ ts.items, t.verify = .ok ()) ∧
      verifyOrder ts.items = .ok () := by
  unfold verify
  by_cases hlen : greatestCount < ts.items.length
  · simp [hlen, bind, Except.bind, throw, throwThe, MonadExceptOf.throw, Nat.not_le_of_lt hlen]
  · rw [if_neg hlen, andThen_eq_ok, verifyAll_eq_ok]
    simp [Nat.le_of_not_lt hlen]

instance lawfulPackable : LawfulPackable NativeTokens :=
  .ofCounted verify (fun _ => rfl) (fun _ => rfl) (by decide) (fun _ => rfl) (fun _ => rfl)
    fun _ => ⟨fun h => ⟨(verify_eq_ok.1 h).1, (verify_eq_ok.1 h).2.1, h⟩, fun h => h.2.2⟩

end NativeTokens

/-! ## Token schemes -/

namespace TokenScheme

instance lawfulPackable : LawfulPackable TokenScheme where
  stable checking :=
    .bind .byte fun _ =>
      .ite
        (.bind .word256 fun _ => .bind .word256 fun _ => .bind .word256 fun _ =>
          .bind (.require ..) fun _ => .pure _)
        (.throw _)
  cautious :=
    .bind (.refl _) fun _ =>
      .ite
        (.bind (.refl _) fun _ => .bind (.refl _) fun _ => .bind (.refl _) fun _ =>
          .bind (.require _) fun _ => .refl _)
        (.refl _)
  sound {checking input rest a} h := by
    obtain ⟨kind, mid, hkind, h⟩ := bind_eq_ok.1 h
    rw [byte_eq_ok.1 hkind]
    split at h
    · next hk =>
      obtain ⟨minted, mid₁, hminted, h⟩ := bind_eq_ok.1 h
      obtain ⟨melted, mid₂, hmelted, h⟩ := bind_eq_ok.1 h
      obtain ⟨supply, mid₃, hsupply, h⟩ := bind_eq_ok.1 h
      obtain ⟨_, mid₄, hreq, h⟩ := bind_eq_ok.1 h
      obtain ⟨rfl, rfl⟩ := pure_eq_ok.1 h
      obtain ⟨hv, rfl⟩ := require_eq_ok.1 hreq
      rw [word256_eq_ok.1 hminted, word256_eq_ok.1 hmelted, word256_eq_ok.1 hsupply, hk]
      refine ⟨?_, hv⟩
      show _ = simpleKind :: (packWord256 minted ++ packWord256 melted ++ packWord256 supply) ++ _
      rw [List.cons_append, List.append_assoc, List.append_assoc]
    · cases h
  complete {a} hv := by
    cases a with
    | unknown u => cases hv
    | simple s =>
      refine .congr (.bind (.byte simpleKind) (.bind (.word256 s.mintedTokens)
        (.bind (.word256 s.meltedTokens) (.checked (.word256 s.maximumSupply) hv _)))) ?_
      show _ = simpleKind :: packWord256 s.mintedTokens ++ packWord256 s.meltedTokens ++ _
      rw [List.append_assoc]
      rfl

end TokenScheme

end UtxoCodec
