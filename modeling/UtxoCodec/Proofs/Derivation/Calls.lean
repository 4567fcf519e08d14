import UtxoCodec.Proofs.Derivation.Cache

/-!
# Runs of the derivation cache

A cache is reached from the empty one by calls, each of which may give up an entry of the caller's
choice. Every call keeps the invariant `Sound`, so every cache reached has it (`sound_run`), and its
results are those of the derivations but for one case: a foundry whose controlling address is no alias
*and* whose serial number is out of range. The derivation names the address, the cache the serial
number (`cached_results`).
-/

namespace UtxoCodec.DerivationCache

open Outcome

/-! ## Calls -/

/-- A call, with what it is asked for. -/
inductive Call where
  | aliasId (id : OutputId)
  | nftId (id : OutputId)
  | foundryId (address : Address) (serialNumber : UInt64) (tokenSchemeKind : UInt8)

/-- The cache after a call. The number says which entry is given up if one has to be. -/
def after (c : DerivationCache) (choice : Nat) : Call → DerivationCache
  | .aliasId id => (c.aliasId choice id).2
  | .nftId id => (c.nftId choice id).2
  | .foundryId address serialNumber kind => (c.foundryId choice address serialNumber kind).2

/-- The cache after calls, each with its number. -/
def run (c : DerivationCache) : List (Nat × Call) → DerivationCache
  | [] => c
  | (choice, call) :: calls => (c.after choice call).run calls

variable {c : DerivationCache}

theorem Sound.after (h : c.Sound) (choice : Nat) (call : Call) : (c.after choice call).Sound := by
  cases call with
  | aliasId id => exact (h.aliasId id).2
  | nftId id => exact (h.nftId id).2
  | foundryId address serialNumber kind => exact (h.foundryId address serialNumber kind).2

theorem Sound.run (h : c.Sound) (calls : List (Nat × Call)) : (c.run calls).Sound := by
  induction calls generalizing c with
  | nil => exact h
  | cons entry calls ih => exact ih (h.after entry.1 entry.2)

/-- Whatever was asked for and given up, what is remembered is right. -/
theorem sound_run (capacity : Nat) (calls : List (Nat × Call)) : ((empty capacity).run calls).Sound :=
  (sound_empty capacity).run calls

/-! ## The order of checks -/

theorem deriveFoundryId_of_not_alias {address : Address} (haddress : address.kind ≠ 8)
    (serialNumber : UInt64) (kind : UInt8) :
    deriveFoundryId address serialNumber kind = .error (.notAnAliasAddress address.kindName) := by
  cases address with
  | ed25519 hash => rfl
  | «alias» id => exact absurd rfl haddress
  | nft id => rfl

theorem deriveFoundryId_of_le {address : Address} (haddress : address.kind = 8)
    {serialNumber : UInt64} (hserial : UInt32.size ≤ serialNumber.toNat) (kind : UInt8) :
    deriveFoundryId address serialNumber kind = .error (.serialNumberOutOfRange serialNumber) := by
  cases address with
  | ed25519 hash => cases haddress
  | nft id => cases haddress
  | «alias» id =>
    unfold deriveFoundryId narrowSerialNumber
    rw [if_neg (Nat.not_lt_of_le hserial)]
    rfl

/-- Which of the two checks comes first is seen only if both fail. -/
theorem checkedFoundryId_eq (address : Address) (serialNumber : UInt64) (kind : UInt8) :
    checkedFoundryId address serialNumber kind =
      if address.kind = 8 ∨ serialNumber.toNat < UInt32.size then
        deriveFoundryId address serialNumber kind
      else .error (.serialNumberOutOfRange serialNumber) := by
  unfold checkedFoundryId
  by_cases hserial : serialNumber.toNat < UInt32.size
  · rw [if_pos (Or.inr hserial), narrowSerialNumber, if_pos hserial]
    rfl
  · have hchecked : narrowSerialNumber serialNumber = .error (.serialNumberOutOfRange serialNumber) :=
      if_neg hserial
    rw [hchecked]
    by_cases haddress : address.kind = 8
    · rw [if_pos (Or.inl haddress), deriveFoundryId_of_le haddress (Nat.le_of_not_lt hserial)]
      rfl
    · rw [if_neg (not_or_intro haddress hserial)]
      rfl

theorem checkedFoundryId_eq_derive_iff (address : Address) (serialNumber : UInt64) (kind : UInt8) :
    checkedFoundryId address serialNumber kind = deriveFoundryId address serialNumber kind ↔
      address.kind = 8 ∨ serialNumber.toNat < UInt32.size := by
  rw [checkedFoundryId_eq]
  constructor
  · intro h
    by_cases hone : address.kind = 8 ∨ serialNumber.toNat < UInt32.size
    · exact hone
    · obtain ⟨haddress, -⟩ := not_or.1 hone
      rw [if_neg hone, deriveFoundryId_of_not_alias haddress] at h
      cases h
  · exact fun hone => if_pos hone

/-! ## Results -/

/-- In every cache that calls lead to, with whatever entries given up, the results for aliases and
NFTs are those of the derivations. Those for foundries are, failures included, unless the address is
no alias and the serial number does not fit either: then it is the serial number that is named. -/
theorem cached_results (capacity : Nat) (calls : List (Nat × Call)) (choice : Nat) :
    let c := (empty capacity).run calls
    (∀ id, (c.aliasId choice id).1 = deriveAliasId id) ∧
    (∀ id, (c.nftId choice id).1 = deriveNftId id) ∧
    ∀ address serialNumber kind,
      ((c.foundryId choice address serialNumber kind).1 = deriveFoundryId address serialNumber kind ↔
        address.kind = 8 ∨ serialNumber.toNat < UInt32.size) ∧
      (c.foundryId choice address serialNumber kind).1 =
        if address.kind = 8 ∨ serialNumber.toNat < UInt32.size then
          deriveFoundryId address serialNumber kind
        else .error (.serialNumberOutOfRange serialNumber) := by
  intro c
  have hsound : c.Sound := sound_run capacity calls
  refine ⟨fun id => (hsound.aliasId id).1, fun id => (hsound.nftId id).1, ?_⟩
  intro address serialNumber kind
  rw [(hsound.foundryId address serialNumber kind).1]
  exact ⟨checkedFoundryId_eq_derive_iff address serialNumber kind,
    checkedFoundryId_eq address serialNumber kind⟩

/-- A cache just made names the serial number where the derivation names the address. -/
theorem not_cached_eq_derived :
    ¬ ∀ (capacity : Nat) (calls : List (Nat × Call)) (choice : Nat) (address : Address)
        (serialNumber : UInt64) (kind : UInt8),
      (((empty capacity).run calls).foundryId choice address serialNumber kind).1 =
        deriveFoundryId address serialNumber kind := by
  intro h
  have hinput := h defaultCapacity [] 0 (.ed25519 ⟨List.replicate 32 0, rfl⟩) 0x100000000 0
  cases hinput

end UtxoCodec.DerivationCache
