import UtxoCodec.Proofs.Json.Verbatim
import UtxoCodec.Proofs.Wire.Output
import UtxoCodec.Proofs.Wire.Protocol

/-!
# Parameters and unknown kinds are written as they were read

A record of parameters keeps the fields that it does not declare beside those that it does, and an
element of an unknown kind keeps the fields behind its kind. Both are written as the object that
they were read from (`RentStructure.verbatim`, `ProtocolParameters.verbatim`, `KeepsUnknown`).
-/

namespace UtxoCodec

open Outcome Json

/-! ## Simple values -/

theorem Json.eq_nat_of_readNat {limit n : Nat} {j : Json} (h : readNat limit j = .ok n) :
    n < limit ∧ j = nat n := by
  unfold readNat at h
  split at h
  · next m =>
    split at h
    · next hm =>
      cases h
      have hnat : (m.toNat : Int) = m := Int.toNat_of_nonneg hm.1
      refine ⟨?_, by rw [nat, hnat]⟩
      have hlt : m < (limit : Int) := hm.2
      omega
    · cases h
  · cases h

/-- A type of words is written as it was read if the words are the numbers below its limit. -/
theorem Verbatim.of_readNat {α : Type} [Wire α] {limit : Nat} {ofNat : Nat → α} {toNat : α → Nat}
    (hread : ∀ j, Wire.ofJson j = (readNat limit j).map ofNat)
    (hwrite : ∀ a, Wire.toJson a = nat (toNat a)) (hword : ∀ n, n < limit → toNat (ofNat n) = n) :
    Verbatim α := by
  intro j a _ h
  obtain ⟨n, hn, rfl⟩ := map_eq_ok.1 ((hread j).symm.trans h)
  obtain ⟨hlt, rfl⟩ := eq_nat_of_readNat hn
  show (Wire.toJson (ofNat n)).sorted = nat n
  rw [hwrite, hword n hlt]
  rfl

theorem verbatim_uint8 : Verbatim UInt8 :=
  .of_readNat (fun _ => rfl) (fun _ => rfl) fun _ => UInt8.toNat_ofNat_of_lt'

theorem verbatim_uint32 : Verbatim UInt32 :=
  .of_readNat (fun _ => rfl) (fun _ => rfl) fun _ => UInt32.toNat_ofNat_of_lt'

theorem Json.eq_string_of_readString {j : Json} {s : String} (h : readString j = .ok s) :
    j = .string s := by
  unfold readString at h
  split at h
  · cases h
    rfl
  · cases h

theorem verbatim_string : Verbatim String := fun _ _ _ h => (eq_string_of_readString h).symm

theorem Amount.verbatim : Verbatim Amount := by
  intro j a _ h
  obtain ⟨text, hread, hamount⟩ := bind_eq_ok.1 h
  obtain rfl := eq_string_of_readString hread
  exact congrArg Json.string (text_of_ofText (mapError_eq_ok.1 hamount))

/-! ## Undeclared fields -/

/-- A record that is written with the fields that it does not declare is the object that it was read
from, if what is written under the declared names was read there. -/
theorem Json.Record.Writes.sorted_others {α : Type} {r : Record α} {written found : List Field}
    {a : α} (h : Writes r written a) (hnodup : r.names.Nodup) (hj : (Json.object found).Canonical)
    (hkeys : keys written = r.names)
    (hwritten : ∀ field ∈ written, Json.find? found field.1 = some field.2.sorted) :
    (Json.object (written ++ r.others found)).sorted = .object found := by
  have hextra := Record.extraFields_others r hj.1 hj.2
  refine congrArg Json.object (fields_ext (keysIncrease_ofFields _) hj.1 fun key => ?_)
  have hother : Json.find? (r.others found) key =
      if !r.names.contains key then Json.find? found key else none :=
    find?_filter (fun key => !r.names.contains key) found key
  rw [h.find?_extra hnodup hextra, find?_sortedFields, hother]
  cases hfind : Json.find? written key with
  | some j =>
    rw [hwritten _ (mem_of_find? hfind)]
    rfl
  | none =>
    have hundeclared : key ∉ r.names := hkeys ▸ find?_eq_none.1 hfind
    simp [hundeclared]

namespace RentStructure

theorem takes {fields : List Field} (hfields : CanonicalFields fields) :
    Record.Takes fields record fun make => ∀ extra,
      find? fields "vByteCost" = some (toWire (make extra).byteCost) ∧
      find? fields "vByteFactorData" = some (toWire (make extra).factorData) ∧
      find? fields "vByteFactorKey" = some (toWire (make extra).factorKey) :=
  .seq (.seq (.map (.verbatim verbatim_uint32 hfields) fun _ hcost _ hdata _ hkey _ =>
    ⟨hcost, hdata, hkey⟩) (.verbatim verbatim_uint8 hfields)) (.verbatim verbatim_uint8 hfields)

theorem verbatim : Verbatim RentStructure := by
  intro j r hj h
  cases j with
  | object fields =>
    obtain ⟨make, hmake, h⟩ := bind_eq_ok.1 h
    obtain ⟨hcost, hdata, hkey⟩ := (takes hj.2).of_ofFields hmake (record.others fields)
    have hextra := yields.of_ofFields hj.2 hmake (record.others fields)
    cases h
    generalize make (record.others fields) = r at hcost hdata hkey hextra ⊢
    have hsorted := (writes r).sorted_others (by decide) hj rfl <| by
      simp only [List.forall_mem_cons]
      exact ⟨hcost, hdata, hkey, fun _ h => absurd h List.not_mem_nil⟩
    rw [← hextra] at hsorted
    exact hsorted
  | _ => cases h

end RentStructure

namespace ProtocolParameters

theorem takes {fields : List Field} (hfields : CanonicalFields fields) :
    Record.Takes fields record fun make => ∀ extra,
      find? fields "version" = some (toWire (make extra).version) ∧
      find? fields "networkName" = some (toWire (make extra).networkName) ∧
      find? fields "bech32Hrp" = some (toWire (make extra).bech32Hrp) ∧
      find? fields "minPowScore" = some (toWire (make extra).minPowScore) ∧
      find? fields "belowMaxDepth" = some (toWire (make extra).belowMaxDepth) ∧
      find? fields "rentStructure" = some (toWire (make extra).rentStructure) ∧
      find? fields "tokenSupply" = some (toWire (make extra).tokenSupply) :=
  .seq (.seq (.seq (.seq (.seq (.seq (.map (.verbatim verbatim_uint8 hfields)
    fun _ hversion _ hnetwork _ hhrp _ hscore _ hdepth _ hrent _ hsupply _ =>
      ⟨hversion, hnetwork, hhrp, hscore, hdepth, hrent, hsupply⟩)
    (.verbatim verbatim_string hfields)) (.verbatim verbatim_string hfields))
    (.verbatim verbatim_uint32 hfields)) (.verbatim verbatim_uint8 hfields))
    (.verbatim RentStructure.verbatim hfields)) (.verbatim Amount.verbatim hfields)

theorem verbatim : Verbatim ProtocolParameters := by
  intro j p hj h
  cases j with
  | object fields =>
    obtain ⟨make, hmake, h⟩ := bind_eq_ok.1 h
    obtain ⟨hversion, hnetwork, hhrp, hscore, hdepth, hrent, hsupply⟩ :=
      (takes hj.2).of_ofFields hmake (record.others fields)
    obtain ⟨hsurvives, hextra⟩ := yields.of_ofFields hj.2 hmake (record.others fields)
    cases h
    generalize make (record.others fields) = p
      at hversion hnetwork hhrp hscore hdepth hrent hsupply hsurvives hextra ⊢
    have hsorted := (writes hsurvives).sorted_others (by decide) hj rfl <| by
      simp only [List.forall_mem_cons]
      exact ⟨hversion, hnetwork, hhrp, hscore, hdepth, hrent, hsupply,
        fun _ h => absurd h List.not_mem_nil⟩
    rw [← hextra] at hsorted
    exact hsorted
  | _ => cases h

end ProtocolParameters

/-! ## Elements of unknown kinds -/

/-- An object of a kind that is not known is read, and written as it came. A type may reserve names
of fields that such an object does not have. -/
def KeepsUnknown (α : Type) [Wire α] (known : List Nat) (reserved : List String) : Prop :=
  ∀ j : Json, j.Canonical → j.OfUnknownKind known → (∀ name ∈ reserved, j.field? name = none) →
    ∃ a : α, fromWire j = .ok a ∧ toWire a = j

/-- A tagged type keeps the fields of the kinds that it does not know. -/
theorem KeepsUnknown.of_ofTagged {α : Type} [Wire α] {what : String} {known : List Nat}
    {reserved : List String} {read : Tagged → Except JsonError α} (unknown : Unrecognized → α)
    (hread : ∀ j, Wire.ofJson j = Tagged.ofJson what j >>= read)
    (hwrite : ∀ u, Wire.toJson (unknown u) = u.toJson) (htype : "type" ∉ reserved)
    (hunknown : ∀ t, t.kind.toNat ∉ known → (∀ name ∈ reserved, find? t.fields name = none) →
      read t = .ok (unknown (.ofTagged t))) : KeepsUnknown α known reserved := by
  intro j hj hkind hreserved
  obtain ⟨t, ht, hknown⟩ := Tagged.ofJson_of_unknownKind hkind
  refine ⟨unknown (.ofTagged t), (hread j).trans (bind_eq_ok.2 ⟨t, ht, ?_⟩), ?_⟩
  · refine hunknown t hknown fun name hname => ?_
    rw [← Tagged.field?_of_ofJson ht fun heq => htype (heq ▸ hname)]
    exact hreserved name hname
  · show (Wire.toJson (unknown (.ofTagged t))).sorted = j
    rw [hwrite]
    exact Tagged.sorted_toJson hj ht

/-- A kind that is not known by its number is none of those known. -/
theorem ne_of_notMem {kind : UInt8} {numbers : List Nat} (h : kind.toNat ∉ numbers) (known : UInt8)
    (hknown : known.toNat ∈ numbers) : kind ≠ known := by
  rintro rfl
  exact h hknown

theorem UnlockCondition.keepsUnknown : KeepsUnknown UnlockCondition [0, 1, 2, 3, 4, 5, 6] [] := by
  refine .of_ofTagged unknown ofJson_eq (fun _ => rfl) List.not_mem_nil fun t hkind _ => ?_
  have hne := ne_of_notMem hkind
  simp [ofTagged, hne]

theorem Feature.keepsUnknown : KeepsUnknown Feature [0, 1, 2, 3] [] := by
  refine .of_ofTagged unknown ofJson_eq (fun _ => rfl) List.not_mem_nil fun t hkind _ => ?_
  have hne := ne_of_notMem hkind
  simp [ofTagged, hne]

theorem TokenScheme.keepsUnknown : KeepsUnknown TokenScheme [0] [] := by
  refine .of_ofTagged unknown (fun _ => rfl) (fun _ => rfl) List.not_mem_nil fun t hkind _ => ?_
  rw [if_neg (ne_of_notMem hkind _ (by decide))]
  rfl

theorem Output.keepsUnknown : KeepsUnknown Output [2, 3, 4, 5, 6] ["opaque"] := by
  refine .of_ofTagged unknown ofJson_eq (fun _ => rfl) (by decide) fun t hkind hreserved => ?_
  have hne := ne_of_notMem hkind
  simp [ofTagged, hne, hreserved "opaque" (List.mem_singleton.2 rfl), TreasuryOutput.kind,
    BasicOutput.kind, AliasOutput.kind, FoundryOutput.kind, NftOutput.kind]

end UtxoCodec
