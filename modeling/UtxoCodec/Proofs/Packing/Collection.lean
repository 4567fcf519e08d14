import UtxoCodec.Feature
import UtxoCodec.UnlockCondition
import UtxoCodec.Proofs.Packing.Element

/-!
# Binary forms of unlock conditions and features

Elements with a kind byte and the collections of them. What is behind the kind byte is read by one
reader for each kind; `unpackBody_sound` and `reads_unpackBody` treat them kind by kind, and the
collections follow.
-/

namespace UtxoCodec

open Unpacker

theorem SortedKinds.verify_eq_ok {α : Type} {kind : α → UInt8} {what : String} {greatest : Nat}
    {items : List α} : SortedKinds.verify kind what greatest items = .ok () ↔
      items.length ≤ greatest ∧ SortedKinds.verifyOrder kind what items = .ok () := by
  rw [SortedKinds.verify, ite_error_eq_ok, Nat.not_lt]

/-! ## Unlock conditions -/

namespace UnlockCondition

theorem stable_unpackBody (checking : Checking) (kind : UInt8) :
    Stable (unpackBody checking kind) :=
  .ite (.bind (LawfulUnpack.stable checking) fun _ => .pure _) <|
  .ite (.bind (LawfulUnpack.stable checking) fun _ =>
    .bind (LawfulUnpack.stable checking) fun _ => .pure _) <|
  .ite (.bind .word32 fun _ => .pure _) <|
  .ite (.bind (LawfulUnpack.stable checking) fun _ => .bind .word32 fun _ => .pure _) <|
  .ite (.bind (LawfulUnpack.stable checking) fun _ => .pure _) <|
  .ite (.bind (LawfulUnpack.stable checking) fun _ => .pure _) <|
  .ite (.bind (LawfulUnpack.stable checking) fun _ => .pure _) (.throw _)

/-- Nothing behind the kind byte is checked before the condition is complete. -/
theorem unpackBody_strict (kind : UInt8) : unpackBody .strict kind = unpackBody .lenient kind := rfl

/-- What a known condition is packed as. -/
theorem pack_of_ne_unknown {c : UnlockCondition} (h : ∀ u, c ≠ unknown u) :
    pack c = c.kind :: c.packBody := by
  cases c with
  | unknown u => exact absurd rfl (h u)
  | _ => rfl

theorem unpackBody_sound {checking : Checking} {kind : UInt8} {input rest : Bytes}
    {c : UnlockCondition} (h : unpackBody checking kind input = .ok (c, rest)) :
    kind :: input = pack c ++ rest := by
  unfold unpackBody at h
  split at h
  · next hk =>
    obtain ⟨a, ha, rfl⟩ := map_eq_ok.1 h
    rw [hk, LawfulUnpack.eq_pack_append ha]
    rfl
  split at h
  · next hk =>
    obtain ⟨a, mid, ha, h⟩ := bind_eq_ok.1 h
    obtain ⟨amount, hamount, rfl⟩ := map_eq_ok.1 h
    rw [hk, LawfulUnpack.eq_pack_append ha, LawfulUnpack.eq_pack_append hamount,
      ← List.append_assoc]
    rfl
  split at h
  · next hk =>
    obtain ⟨time, htime, rfl⟩ := map_eq_ok.1 h
    rw [hk, word32_eq_ok.1 htime]
    rfl
  split at h
  · next hk =>
    obtain ⟨a, mid, ha, h⟩ := bind_eq_ok.1 h
    obtain ⟨time, htime, rfl⟩ := map_eq_ok.1 h
    rw [hk, LawfulUnpack.eq_pack_append ha, word32_eq_ok.1 htime, ← List.append_assoc]
    rfl
  split at h
  · next hk =>
    obtain ⟨a, ha, rfl⟩ := map_eq_ok.1 h
    rw [hk, LawfulUnpack.eq_pack_append ha]
    rfl
  split at h
  · next hk =>
    obtain ⟨a, ha, rfl⟩ := map_eq_ok.1 h
    rw [hk, LawfulUnpack.eq_pack_append ha]
    rfl
  split at h
  · next hk =>
    obtain ⟨a, ha, rfl⟩ := map_eq_ok.1 h
    rw [hk, LawfulUnpack.eq_pack_append ha]
    rfl
  · cases h

theorem reads_unpackBody {c : UnlockCondition} (hv : c.verify = .ok ()) :
    Reads (unpackBody .strict c.kind) c.packBody c := by
  cases c with
  | address a | stateController a | governor a | immutableAlias a =>
    exact .map (LawfulPackable.complete (a := a) rfl) _
  | storageDepositReturn c =>
    exact .bind (LawfulPackable.complete (a := c.returnAddress) rfl)
      (.map (LawfulPackable.complete (a := c.amount) hv) _)
  | timelock c => exact .map (.word32 c.unixTime) _
  | expiration c =>
    exact .bind (LawfulPackable.complete (a := c.returnAddress) rfl) (.map (.word32 c.unixTime) _)
  | unknown u => cases hv

instance lawfulPackable : LawfulPackable UnlockCondition where
  stable checking :=
    .bind .byte fun kind => .bind (stable_unpackBody checking kind) fun _ =>
      .bind (.require ..) fun _ => .pure _
  cautious :=
    .bind (.refl _) fun kind => .bind (unpackBody_strict kind ▸ .refl _) fun _ =>
      .bind (.require _) fun _ => .refl _
  sound {checking input rest c} h := by
    obtain ⟨kind, mid, hkind, h⟩ := bind_eq_ok.1 h
    obtain ⟨c, mid', hc, h⟩ := bind_eq_ok.1 h
    obtain ⟨_, mid'', hreq, h⟩ := bind_eq_ok.1 h
    obtain ⟨rfl, rfl⟩ := pure_eq_ok.1 h
    obtain ⟨hv, rfl⟩ := require_eq_ok.1 hreq
    rw [byte_eq_ok.1 hkind]
    exact ⟨unpackBody_sound hc, hv⟩
  complete {c} hv := by
    have hknown : ∀ u, c ≠ unknown u := by
      rintro u rfl
      cases hv
    rw [pack_of_ne_unknown hknown]
    exact .bind (.byte c.kind) (.checked (reads_unpackBody hv) hv _)

end UnlockCondition

namespace UnlockConditions

theorem verify_eq_ok {cs : UnlockConditions} : cs.verify = .ok () ↔
    cs.verifyKinds = .ok () ∧ ∀ c ∈ cs.items, c.verify = .ok () := by
  rw [verify, andThen_eq_ok, verifyAll_eq_ok]

theorem length_le_of_verifyKinds {cs : UnlockConditions} (h : cs.verifyKinds = .ok ()) :
    cs.items.length ≤ greatestCount :=
  (SortedKinds.verify_eq_ok.1 h).1

instance lawfulPackable : LawfulPackable UnlockConditions := by
  refine .ofCounted verifyKinds (fun _ => rfl) (fun _ => rfl) (by decide) (fun _ => rfl)
    (fun _ => rfl) fun cs => verify_eq_ok.trans ⟨?_, ?_⟩
  · rintro ⟨hkinds, hall⟩
    exact ⟨length_le_of_verifyKinds hkinds, hall, hkinds⟩
  · rintro ⟨-, hall, hkinds⟩
    exact ⟨hkinds, hall⟩

end UnlockConditions

/-! ## Features -/

namespace Feature

theorem verifyLength_eq_ok {what : String} {greatest : Nat} {bytes : Bytes} :
    verifyLength what greatest bytes = .ok () ↔ 1 ≤ bytes.length ∧ bytes.length ≤ greatest :=
  ite_eq_ok

theorem stable_unpackBody (checking : Checking) (kind : UInt8) :
    Stable (unpackBody checking kind) :=
  .ite (.bind (LawfulUnpack.stable checking) fun _ => .pure _) <|
  .ite (.bind (LawfulUnpack.stable checking) fun _ => .pure _) <|
  .ite (.bind (.sized ..) fun _ => .pure _) <|
  .ite (.bind (.sized ..) fun _ => .pure _) (.throw _)

theorem cautious_unpackBody (kind : UInt8) :
    Cautious (unpackBody .strict kind) (unpackBody .lenient kind) :=
  .ite (.bind LawfulUnpack.cautious fun _ => .refl _) <|
  .ite (.bind LawfulUnpack.cautious fun _ => .refl _) <|
  .ite (.bind (.sized _ _ _ _) fun _ => .refl _) <|
  .ite (.bind (.sized _ _ _ _) fun _ => .refl _) (.refl _)

instance lawfulPackable : LawfulPackable Feature where
  stable checking := .bind .byte fun kind => stable_unpackBody checking kind
  cautious := .bind (.refl _) fun kind => cautious_unpackBody kind
  sound {checking input rest f} h := by
    obtain ⟨kind, mid, hkind, h⟩ := bind_eq_ok.1 h
    rw [byte_eq_ok.1 hkind]
    unfold unpackBody at h
    split at h
    · next hk =>
      obtain ⟨a, ha, rfl⟩ := map_eq_ok.1 h
      rw [hk, LawfulUnpack.eq_pack_append ha]
      exact ⟨rfl, fun _ => rfl⟩
    split at h
    · next hk =>
      obtain ⟨a, ha, rfl⟩ := map_eq_ok.1 h
      rw [hk, LawfulUnpack.eq_pack_append ha]
      exact ⟨rfl, fun _ => rfl⟩
    split at h
    · next hk =>
      obtain ⟨data, hdata, rfl⟩ := map_eq_ok.1 h
      obtain ⟨rfl, hlen⟩ := sized_sound hdata
      rw [hk]
      exact ⟨rfl, fun hc => verifyLength_eq_ok.2 (hlen hc)⟩
    split at h
    · next hk =>
      obtain ⟨bytes, hbytes, rfl⟩ := map_eq_ok.1 h
      obtain ⟨rfl, hlen⟩ := sized_sound hbytes
      rw [hk]
      exact ⟨rfl, fun hc => verifyLength_eq_ok.2 (hlen hc)⟩
    · cases h
  complete {f} hv := by
    cases f with
    | sender a => exact .bind (.byte 0) (.map (LawfulPackable.complete (a := a) rfl) _)
    | issuer a => exact .bind (.byte 1) (.map (LawfulPackable.complete (a := a) rfl) _)
    | metadata data =>
      obtain ⟨hleast, hgreatest⟩ := verifyLength_eq_ok.1 hv
      exact .bind (.byte 2) (.map (.sized (by decide) hleast hgreatest) _)
    | tag bytes =>
      obtain ⟨hleast, hgreatest⟩ := verifyLength_eq_ok.1 hv
      exact .bind (.byte 3) (.map (.sized (by decide) hleast hgreatest) _)
    | unknown u => cases hv

end Feature

namespace Features

theorem verify_eq_ok {fs : Features} : fs.verify = .ok () ↔
    fs.verifyKinds = .ok () ∧ ∀ f ∈ fs.items, f.verify = .ok () := by
  rw [verify, andThen_eq_ok, verifyAll_eq_ok]

theorem length_le_of_verifyKinds {fs : Features} (h : fs.verifyKinds = .ok ()) :
    fs.items.length ≤ greatestCount :=
  (SortedKinds.verify_eq_ok.1 h).1

instance lawfulPackable : LawfulPackable Features := by
  refine .ofCounted verifyKinds (fun _ => rfl) (fun _ => rfl) (by decide) (fun _ => rfl)
    (fun _ => rfl) fun fs => verify_eq_ok.trans ⟨?_, ?_⟩
  · rintro ⟨hkinds, hall⟩
    exact ⟨length_le_of_verifyKinds hkinds, hall, hkinds⟩
  · rintro ⟨-, hall, hkinds⟩
    exact ⟨hkinds, hall⟩

end Features

end UtxoCodec
