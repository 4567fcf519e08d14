import UtxoCodec.Protocol
import UtxoCodec.Proofs.Outcome
import UtxoCodec.Proofs.Packing.Length

/-!
# The storage deposit

The deposit is computed in steps that fail where a number does not fit 64 bits
(`RentStructure.rentCost_eq_ok`). Outputs of known kinds that verify are short
(`Output.length_pack_le`), so that even the highest prices keep every step within 64 bits
(`RentStructure.Fits.of_le`), and the deposit is the price of the output's encoding and of the bytes
stored beside it, as a natural number. Main statement: `RentStructure.deposit_of_encoding`.
-/

namespace UtxoCodec.RentStructure

open Outcome

variable {r : RentStructure} {o : Output}

theorem checked_eq_ok {n m : Nat} : checked n = .ok m ↔ n < UInt64.size ∧ n = m := by
  unfold checked
  by_cases h : n < UInt64.size
  · rw [if_pos h, Except.ok.injEq, and_iff_right h]
  · rw [if_neg h]
    exact iff_of_false (fun heq => nomatch heq) fun hlt => h hlt.1

/-- The bytes that are paid for, weighted by what a byte of their sort counts: an encoding of the
given length, and the key and the data that are stored beside it. -/
def weight (r : RentStructure) (length : Nat) : Nat :=
  length * r.factorData.toNat + 34 * r.factorKey.toNat + 40 * r.factorData.toNat

/-- Every number on the way to the deposit for an encoding of the given length fits 64 bits. -/
structure Fits (r : RentStructure) (length : Nat) : Prop where
  body : length * r.factorData.toNat < UInt64.size
  withKey : length * r.factorData.toNat + 34 * r.factorKey.toNat < UInt64.size
  weight : r.weight length < UInt64.size
  deposit : r.weight length * r.byteCost.toNat < UInt64.size

/-- What it takes for an output to have a cost, and which cost it has. -/
theorem rentCost_eq_ok {v : UInt64} : r.rentCost o = .ok v ↔
    o.verify = .ok () ∧ r.Fits o.pack.length ∧
      v.toNat = r.weight o.pack.length * r.byteCost.toNat := by
  have hnat : ∀ n, n < UInt64.size → (UInt64.ofNat n = v ↔ v.toNat = n) := by
    intro n hn
    rw [← UInt64.toNat_inj, UInt64.toNat_ofNat_of_lt' hn, eq_comm]
  constructor
  · intro h
    obtain ⟨_, hverify, h⟩ := bind_eq_ok.1 h
    obtain ⟨_, hbody, h⟩ := bind_eq_ok.1 h
    obtain ⟨_, hwithKey, h⟩ := bind_eq_ok.1 h
    obtain ⟨_, hweighted, h⟩ := bind_eq_ok.1 h
    obtain ⟨_, htotal, h⟩ := bind_eq_ok.1 h
    obtain ⟨hbodyFits, rfl⟩ := checked_eq_ok.1 hbody
    obtain ⟨hwithKeyFits, rfl⟩ := checked_eq_ok.1 hwithKey
    obtain ⟨hweightFits, rfl⟩ := checked_eq_ok.1 hweighted
    obtain ⟨hdepositFits, rfl⟩ := checked_eq_ok.1 htotal
    cases h
    exact ⟨hverify, ⟨hbodyFits, hwithKeyFits, hweightFits, hdepositFits⟩,
      (hnat _ hdepositFits).1 rfl⟩
  · rintro ⟨hverify, hfits, hv⟩
    refine bind_eq_ok.2 ⟨(), hverify, ?_⟩
    refine bind_eq_ok.2 ⟨_, checked_eq_ok.2 ⟨hfits.body, rfl⟩, ?_⟩
    refine bind_eq_ok.2 ⟨_, checked_eq_ok.2 ⟨hfits.withKey, rfl⟩, ?_⟩
    refine bind_eq_ok.2 ⟨_, checked_eq_ok.2 ⟨hfits.weight, rfl⟩, ?_⟩
    refine bind_eq_ok.2 ⟨_, checked_eq_ok.2 ⟨hfits.deposit, rfl⟩, ?_⟩
    exact congrArg Except.ok ((hnat _ hfits.deposit).2 hv)

/-- The fault of an output that does not verify comes first. -/
theorem rentCost_of_error {e : EncodingError} (h : o.verify = .error e) :
    r.rentCost o = .error e := by
  unfold rentCost
  rw [h]
  rfl

/-- The highest prices there are do not overflow on an output of a known kind. -/
theorem Fits.of_le {length : Nat} (h : length ≤ Output.greatestLength) : r.Fits length := by
  have hlength : length ≤ 78581 := h
  have hdata : r.factorData.toNat ≤ 255 := Nat.le_of_lt_succ r.factorData.toNat_lt
  have hkey : r.factorKey.toNat ≤ 255 := Nat.le_of_lt_succ r.factorKey.toNat_lt
  have hcost : r.byteCost.toNat ≤ 4294967295 := Nat.le_of_lt_succ r.byteCost.toNat_lt
  have hbody : length * r.factorData.toNat ≤ 78581 * 255 := Nat.mul_le_mul hlength hdata
  have hweight : r.weight length ≤ 20057025 := by
    unfold RentStructure.weight
    omega
  have hdeposit : r.weight length * r.byteCost.toNat ≤ 20057025 * 4294967295 :=
    Nat.mul_le_mul hweight hcost
  unfold RentStructure.weight at hweight
  have hsize : UInt64.size = 18446744073709551616 := rfl
  exact ⟨by omega, by omega, by unfold RentStructure.weight; omega, by omega⟩

/-- An output of a known kind that verifies costs what the bytes of its encoding and the bytes
stored beside it cost, as a natural number; no step of the computation exceeds 64 bits. An output
that does not verify has no cost, for the reason that it does not verify. -/
theorem deposit_of_encoding (r : RentStructure) (o : Output) :
    (o.IsKnown → o.verify = .ok () → ∃ bytes v, o.encode = .ok bytes ∧ r.rentCost o = .ok v ∧
      v.toNat = r.byteCost.toNat *
        (bytes.length * r.factorData.toNat + 34 * r.factorKey.toNat + 40 * r.factorData.toNat) ∧
      r.Fits bytes.length) ∧
    ∀ e, o.verify = .error e → r.rentCost o = .error e := by
  refine ⟨fun hknown hverify => ?_, fun e he => rentCost_of_error he⟩
  have hfits : r.Fits o.pack.length := .of_le (Output.length_pack_le hknown hverify)
  have hnat : (UInt64.ofNat (r.weight o.pack.length * r.byteCost.toNat)).toNat =
      r.weight o.pack.length * r.byteCost.toNat := UInt64.toNat_ofNat_of_lt' hfits.deposit
  refine ⟨o.pack, _, Output.encode_eq_ok.2 ⟨hverify, rfl⟩,
    rentCost_eq_ok.2 ⟨hverify, hfits, hnat⟩, ?_, hfits⟩
  rw [hnat, Nat.mul_comm]
  rfl

/-- The highest prices for the nine bytes of a treasury output, and an output without encoding. -/
theorem deposit_of_encoding_at_highest_prices :
    let highest : RentStructure := ⟨4294967295, 255, 255, []⟩
    (∃ v, highest.rentCost (.treasury ⟨⟨5⟩⟩) = .ok v ∧ v.toNat = 90902982798675) ∧
      highest.rentCost (.unknown ⟨9, .fields []⟩) = .error (.unrecognizedKind "output" 9) := by
  intro highest
  refine ⟨?_, (deposit_of_encoding highest _).2 _ rfl⟩
  obtain ⟨bytes, v, hencode, hcost, hv, -⟩ :=
    (deposit_of_encoding highest (.treasury ⟨⟨5⟩⟩)).1 (fun _ h => by cases h) rfl
  have hlength : bytes.length = 9 := by
    obtain ⟨-, rfl⟩ := Output.encode_eq_ok.1 hencode
    rfl
  rw [hlength] at hv
  exact ⟨v, hcost, hv.trans (by decide)⟩

end UtxoCodec.RentStructure
