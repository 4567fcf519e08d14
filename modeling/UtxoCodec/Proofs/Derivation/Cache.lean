import UtxoCodec.Derivation.Cache
import UtxoCodec.Proofs.Outcome
import UtxoCodec.Proofs.Packing.Element

/-!
# Remembering changes no result

A remembered derivation gives what the derivation itself gives. The invariant says of every entry
what its key is derived to (`DerivationCache.Sound`); it says nothing of how many entries there are
or which ones, so it holds whatever is given up to make room. The key of a foundry is not the input
of the derivation but its packed form, which determines the result (`foundryKey_inj`).
-/

namespace UtxoCodec

open Outcome

/-! ## Bounded maps -/

namespace BoundedMap

variable {κ ν ε : Type} [DecidableEq κ] {m : BoundedMap κ ν} {P : κ → ν → Prop}

/-- Every entry is as wanted. -/
def Sound (P : κ → ν → Prop) (m : BoundedMap κ ν) : Prop := ∀ entry ∈ m.entries, P entry.1 entry.2

omit [DecidableEq κ] in
theorem sound_empty (capacity : Nat) : (empty capacity : BoundedMap κ ν).Sound P :=
  fun _ h => absurd h List.not_mem_nil

theorem Sound.of_find? (h : m.Sound P) {key : κ} {value : ν} (hfind : m.find? key = some value) :
    P key value := by
  obtain ⟨entry, hentry, rfl⟩ := Option.map_eq_some_iff.1 hfind
  have hkey : entry.1 = key := by simpa using List.find?_some hentry
  rw [← hkey]
  exact h entry (List.mem_of_find?_eq_some hentry)

omit [DecidableEq κ] in
/-- Whichever entry is given up, the others were there before. -/
theorem mem_of_mem_makeRoom {choice : Nat} {entry : κ × ν} (h : entry ∈ m.makeRoom choice) :
    entry ∈ m.entries := by
  unfold makeRoom at h
  split at h
  · exact List.mem_of_mem_eraseIdx h
  · exact h

omit [DecidableEq κ] in
theorem Sound.insertNew (h : m.Sound P) (choice : Nat) {key : κ} {value : ν} (hnew : P key value) :
    (m.insertNew choice key value).Sound P := by
  unfold BoundedMap.insertNew
  split
  · exact h
  · intro entry hentry
    rcases List.mem_cons.1 hentry with rfl | hold
    · exact hnew
    · exact h entry (mem_of_mem_makeRoom hold)

/-- What is answered is what would be derived, if what is remembered is. -/
theorem Sound.getOrDerive_fst (h : m.Sound P) {choice : Nat} {key : κ}
    {derive : Unit → Except ε ν} (hderive : ∀ value, P key value → derive () = .ok value) :
    (m.getOrDerive choice key derive).1 = derive () := by
  unfold getOrDerive
  cases hfind : m.find? key with
  | some value => exact (hderive value (h.of_find? hfind)).symm
  | none => cases derive () <;> rfl

/-- Only what was derived is remembered; a failure leaves the map as it is. -/
theorem Sound.getOrDerive_snd (h : m.Sound P) (choice : Nat) {key : κ}
    {derive : Unit → Except ε ν} (hderive : ∀ value, derive () = .ok value → P key value) :
    (m.getOrDerive choice key derive).2.Sound P := by
  unfold getOrDerive
  cases m.find? key with
  | some value => exact h
  | none =>
    cases hd : derive () with
    | ok value => exact h.insertNew choice (hderive value hd)
    | error e => exact h

/-- A failure leaves the map as it is. -/
theorem getOrDerive_of_error {choice : Nat} {key : κ} {derive : Unit → Except ε ν} {e : ε}
    (h : (m.getOrDerive choice key derive).1 = .error e) :
    (m.getOrDerive choice key derive).2 = m := by
  unfold getOrDerive at h ⊢
  cases hfind : m.find? key with
  | some value => rfl
  | none =>
    cases hd : derive () with
    | ok value =>
      rw [hfind, hd] at h
      cases h
    | error e => rfl

/-- A derivation that cannot fail. -/
theorem Sound.getOrDerive_eq {f : κ → ν} (h : m.Sound fun key value => f key = value)
    (choice : Nat) (key : κ) :
    ∃ m' : BoundedMap κ ν, m.getOrDerive choice key (fun _ => .ok (f key)) =
        ((.ok (f key) : Except Empty ν), m') ∧ m'.Sound fun key value => f key = value := by
  refine ⟨_, Prod.ext ?_ rfl, ?_⟩
  · exact h.getOrDerive_fst fun value hvalue => by rw [hvalue]
  · refine h.getOrDerive_snd choice fun value hvalue => ?_
    cases hvalue
    rfl

end BoundedMap

/-! ## Keys of foundries -/

theorem Unpacker.Reads.unique {α : Type} {r : Unpacker α} {bytes bytes' rest rest' : Bytes}
    {a a' : α} (h : Reads r bytes a) (h' : Reads r bytes' a')
    (heq : bytes ++ rest = bytes' ++ rest') : a = a' ∧ rest = rest' := by
  have hread := h rest
  rw [heq, h' rest'] at hread
  cases hread
  exact ⟨rfl, rfl⟩

theorem narrowSerialNumber_eq_ok {serialNumber : UInt64} {narrow : UInt32}
    (h : narrowSerialNumber serialNumber = .ok narrow) :
    serialNumber = UInt64.ofNat narrow.toNat := by
  unfold narrowSerialNumber at h
  split at h
  · next hlt =>
    cases h
    rw [UInt32.toNat_ofNat_of_lt' hlt, UInt64.ofNat_toNat]
  · cases h

theorem narrowSerialNumber_ofNat (narrow : UInt32) :
    narrowSerialNumber (UInt64.ofNat narrow.toNat) = .ok narrow := by
  have hwide : (UInt64.ofNat narrow.toNat).toNat = narrow.toNat :=
    UInt64.toNat_ofNat_of_lt' (Nat.lt_trans narrow.toNat_lt (by decide))
  unfold narrowSerialNumber
  rw [hwide, if_pos narrow.toNat_lt, UInt32.ofNat_toNat]

namespace DerivationCache

/-- Different inputs have different keys: the parts of a key are read off it one by one. -/
theorem foundryKey_inj {address address' : Address} {narrow narrow' : UInt32} {kind kind' : UInt8}
    (h : foundryKey address narrow kind = foundryKey address' narrow' kind') :
    address = address' ∧ narrow = narrow' ∧ kind = kind' := by
  have haddress (a : Address) : Unpacker.Reads (unpack .strict) (pack a) a :=
    LawfulPackable.complete rfl
  unfold foundryKey at h
  rw [List.append_assoc, List.append_assoc] at h
  obtain ⟨heq, htail⟩ := (haddress address).unique (haddress address') h
  obtain ⟨hnarrow, hkind⟩ := (Unpacker.Reads.word32 narrow).unique (.word32 narrow') htail
  exact ⟨heq, hnarrow, List.head_eq_of_cons_eq hkind⟩

/-! ## The invariant -/

/-- A foundry is derived to the identifier, from whichever input has the key. -/
def DerivesFoundry (key : Bytes) (id : FoundryId) : Prop :=
  ∀ address serialNumber kind narrow, narrowSerialNumber serialNumber = .ok narrow →
    foundryKey address narrow kind = key → deriveFoundryId address serialNumber kind = .ok id

theorem derivesFoundry_of_derive {address : Address} {serialNumber : UInt64} {kind : UInt8}
    {narrow : UInt32} {id : FoundryId} (hnarrow : narrowSerialNumber serialNumber = .ok narrow)
    (h : deriveFoundryId address serialNumber kind = .ok id) :
    DerivesFoundry (foundryKey address narrow kind) id := by
  intro address' serialNumber' kind' narrow' hnarrow' hkey
  obtain ⟨rfl, rfl, rfl⟩ := foundryKey_inj hkey
  have hserial : serialNumber' = serialNumber := by
    rw [narrowSerialNumber_eq_ok hnarrow, narrowSerialNumber_eq_ok hnarrow']
  rw [hserial]
  exact h

/-- Every result remembered is that of its derivation. -/
structure Sound (c : DerivationCache) : Prop where
  aliasIds : c.aliasIds.Sound fun id value => deriveAliasId id = value
  nftIds : c.nftIds.Sound fun id value => deriveNftId id = value
  foundryIds : c.foundryIds.Sound DerivesFoundry

theorem sound_empty (capacity : Nat) : (empty capacity).Sound where
  aliasIds := BoundedMap.sound_empty capacity
  nftIds := BoundedMap.sound_empty capacity
  foundryIds := BoundedMap.sound_empty capacity

/-- The derivation of a foundry as it is asked for: the serial number is checked first. -/
def checkedFoundryId (address : Address) (serialNumber : UInt64) (kind : UInt8) :
    Except InputError FoundryId := do
  let _ ← narrowSerialNumber serialNumber
  deriveFoundryId address serialNumber kind

variable {c : DerivationCache} {choice : Nat}

namespace Sound

theorem aliasId (h : c.Sound) (id : OutputId) :
    (c.aliasId choice id).1 = deriveAliasId id ∧ (c.aliasId choice id).2.Sound := by
  obtain ⟨m, heq, hm⟩ := h.aliasIds.getOrDerive_eq choice id
  unfold DerivationCache.aliasId
  rw [heq]
  exact ⟨rfl, { h with aliasIds := hm }⟩

theorem nftId (h : c.Sound) (id : OutputId) :
    (c.nftId choice id).1 = deriveNftId id ∧ (c.nftId choice id).2.Sound := by
  obtain ⟨m, heq, hm⟩ := h.nftIds.getOrDerive_eq choice id
  unfold DerivationCache.nftId
  rw [heq]
  exact ⟨rfl, { h with nftIds := hm }⟩

theorem foundryId (h : c.Sound) (address : Address) (serialNumber : UInt64) (kind : UInt8) :
    (c.foundryId choice address serialNumber kind).1 =
        checkedFoundryId address serialNumber kind ∧
      (c.foundryId choice address serialNumber kind).2.Sound := by
  unfold DerivationCache.foundryId checkedFoundryId
  cases hnarrow : narrowSerialNumber serialNumber with
  | error e => exact ⟨rfl, h⟩
  | ok narrow =>
    refine ⟨?_, { h with foundryIds := ?_ }⟩
    · exact h.foundryIds.getOrDerive_fst fun id hid => hid _ _ _ _ hnarrow rfl
    · exact h.foundryIds.getOrDerive_snd choice fun id hid => derivesFoundry_of_derive hnarrow hid

end Sound

/-- A foundry that cannot be derived leaves nothing behind. -/
theorem foundryId_of_error {address : Address} {serialNumber : UInt64} {kind : UInt8}
    {e : InputError} (h : (c.foundryId choice address serialNumber kind).1 = .error e) :
    (c.foundryId choice address serialNumber kind).2 = c := by
  unfold DerivationCache.foundryId at h ⊢
  cases hnarrow : narrowSerialNumber serialNumber with
  | error e => rfl
  | ok narrow =>
    rw [hnarrow] at h
    simp only
    rw [BoundedMap.getOrDerive_of_error h]

end DerivationCache

end UtxoCodec
