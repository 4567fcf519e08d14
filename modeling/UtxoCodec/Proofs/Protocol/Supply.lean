import UtxoCodec.Protocol
import UtxoCodec.Proofs.Amount
import UtxoCodec.Proofs.Outcome

/-!
# Amounts within the token supply

An amount passes the check of a network's parameters if it is within one and the token supply, as
numbers; the result is the number at 64 bits. Amounts and supplies have any size. An amount beyond 64
bits is refused like one beyond the supply, but a supply beyond 64 bits is an error of its own that
no smaller amount gets past: main statement `ProtocolParameters.verified_amounts`, with
`ProtocolParameters.not_every_amount_within_supply_verified` for what it rules out.
-/

namespace UtxoCodec

open Outcome

namespace ProtocolParameters

variable {p : ProtocolParameters} {a : Amount}

/-- An amount beyond 64 bits is outside the supply, whatever that is. -/
theorem verifyAmount_of_wide (h : UInt64.size ≤ a.value) :
    p.verifyAmount a = .error (.amountNotInSupply a.value p.tokenSupply.value) := by
  unfold verifyAmount
  rw [Amount.toUInt64_eq_error.2 ⟨h, rfl⟩]
  rfl

/-- A supply beyond 64 bits is named as out of range. -/
theorem verifyAmount_of_wide_supply (h : a.value < UInt64.size)
    (hsupply : UInt64.size ≤ p.tokenSupply.value) :
    p.verifyAmount a = .error (.amountOutOfRange p.tokenSupply.value) := by
  obtain ⟨value, hvalue, -⟩ := Amount.exists_toUInt64 h
  unfold verifyAmount
  rw [hvalue, Amount.toUInt64_eq_error.2 ⟨hsupply, rfl⟩]
  rfl

/-- Where both fit 64 bits, the numbers decide. -/
theorem verifyAmount_of_narrow (h : a.value < UInt64.size)
    (hsupply : p.tokenSupply.value < UInt64.size) :
    p.verifyAmount a = if 1 ≤ a.value ∧ a.value ≤ p.tokenSupply.value then
      .ok (UInt64.ofNat a.value) else .error (.amountNotInSupply a.value p.tokenSupply.value) := by
  obtain ⟨value, hvalue, hnat⟩ := Amount.exists_toUInt64 h
  obtain ⟨supply, hok, hsupplyNat⟩ := Amount.exists_toUInt64 hsupply
  have hwithin : (1 ≤ value ∧ value ≤ supply) ↔
      (1 ≤ a.value ∧ a.value ≤ p.tokenSupply.value) := by
    rw [← hnat, ← hsupplyNat]
    exact Iff.rfl
  unfold verifyAmount
  rw [hvalue, hok, ← hnat, UInt64.ofNat_toNat, hnat]
  by_cases hin : 1 ≤ a.value ∧ a.value ≤ p.tokenSupply.value
  · rw [if_pos hin]
    exact if_pos (hwithin.2 hin)
  · rw [if_neg hin]
    exact if_neg fun hin' => hin (hwithin.1 hin')

theorem verifyAmount_eq_ok {n : UInt64} : p.verifyAmount a = .ok n ↔
    p.tokenSupply.value < UInt64.size ∧ n.toNat = a.value ∧ 1 ≤ a.value ∧
      a.value ≤ p.tokenSupply.value := by
  constructor
  · intro h
    obtain ⟨value, hvalue, hrest⟩ := bind_eq_ok.1 h
    obtain ⟨supply, hok, -⟩ := bind_eq_ok.1 hrest
    have hnat := Amount.toUInt64_eq_ok.1 (mapError_eq_ok.1 hvalue)
    have hsupplyNat := Amount.toUInt64_eq_ok.1 hok
    have hamount : a.value < UInt64.size := hnat ▸ value.toNat_lt
    have hsupply : p.tokenSupply.value < UInt64.size := hsupplyNat ▸ supply.toNat_lt
    rw [verifyAmount_of_narrow hamount hsupply] at h
    split at h
    · next hwithin =>
      cases h
      exact ⟨hsupply, UInt64.toNat_ofNat_of_lt' hamount, hwithin⟩
    · cases h
  · rintro ⟨hsupply, hnat, hwithin⟩
    have hamount : a.value < UInt64.size := hnat ▸ n.toNat_lt
    rw [verifyAmount_of_narrow hamount hsupply, if_pos hwithin, ← hnat, UInt64.ofNat_toNat]

theorem le_tokenSupply_of_verifyAmount {n : UInt64} (h : p.verifyAmount a = .ok n) :
    1 ≤ a.value ∧ a.value ≤ p.tokenSupply.value :=
  (verifyAmount_eq_ok.1 h).2.2

theorem verifyAmount_eq_error {e : EncodingError} : p.verifyAmount a = .error e ↔
    e = .amountNotInSupply a.value p.tokenSupply.value ∧
        (UInt64.size ≤ a.value ∨ p.tokenSupply.value < UInt64.size ∧
          ¬ (1 ≤ a.value ∧ a.value ≤ p.tokenSupply.value)) ∨
      e = .amountOutOfRange p.tokenSupply.value ∧ a.value < UInt64.size ∧
        UInt64.size ≤ p.tokenSupply.value := by
  by_cases hamount : a.value < UInt64.size
  · by_cases hsupply : p.tokenSupply.value < UInt64.size
    · rw [verifyAmount_of_narrow hamount hsupply]
      by_cases hwithin : 1 ≤ a.value ∧ a.value ≤ p.tokenSupply.value
      · simp [hwithin, Nat.not_le_of_lt hamount, Nat.not_le_of_lt hsupply]
      · simp [hwithin, Nat.not_le_of_lt hsupply, hsupply, eq_comm]
    · have hwide := Nat.le_of_not_lt hsupply
      rw [verifyAmount_of_wide_supply hamount hwide]
      simp [hsupply, hwide, hamount, Nat.not_le_of_lt hamount, eq_comm]
  · have hwide := Nat.le_of_not_lt hamount
    rw [verifyAmount_of_wide hwide]
    simp [hwide, hamount, eq_comm]

/-- An amount passes, as the number that it is, if and only if it is within one and a supply of 64
bits. Every other amount is named as outside the supply, but for the amounts of 64 bits where the
supply is beyond them. -/
theorem verified_amounts (p : ProtocolParameters) (a : Amount) :
    (∀ n : UInt64, p.verifyAmount a = .ok n ↔ p.tokenSupply.value < UInt64.size ∧
      n.toNat = a.value ∧ 1 ≤ a.value ∧ a.value ≤ p.tokenSupply.value) ∧
    ∀ e, p.verifyAmount a = .error e ↔
      e = .amountNotInSupply a.value p.tokenSupply.value ∧
          (UInt64.size ≤ a.value ∨ p.tokenSupply.value < UInt64.size ∧
            ¬ (1 ≤ a.value ∧ a.value ≤ p.tokenSupply.value)) ∨
        e = .amountOutOfRange p.tokenSupply.value ∧ a.value < UInt64.size ∧
          UInt64.size ≤ p.tokenSupply.value :=
  ⟨fun _ => verifyAmount_eq_ok, fun _ => verifyAmount_eq_error⟩

/-- One base token of a supply of 2 ^ 64 does not pass. -/
theorem not_every_amount_within_supply_verified :
    ¬ ∀ (p : ProtocolParameters) (a : Amount) (n : UInt64), p.verifyAmount a = .ok n ↔
      n.toNat = a.value ∧ 1 ≤ n.toNat ∧ n.toNat ≤ p.tokenSupply.value := by
  intro h
  have hverified := (h { shimmer with tokenSupply := ⟨2 ^ 64⟩ } ⟨1⟩ 1).2 (by decide)
  cases hverified

end ProtocolParameters

end UtxoCodec
