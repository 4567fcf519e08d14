import UtxoCodec.Proofs.Derivation.Bounded
import UtxoCodec.Proofs.Derivation.Calls

/-!
# The size of the derivation cache

The cache holds, for each derivation, as many results as different inputs have succeeded, up to its
capacity (`DerivationCache.Fills`). A call that succeeds adds its input, and one that fails changes
nothing. For a foundry the key is not the input but its packed form, and a call that succeeds is one
for an alias and the known token scheme, so that keys and inputs correspond (`inputKey_injective`).
Main statement: `DerivationCache.size_law`.
-/

namespace UtxoCodec.DerivationCache

open Outcome

/-! ## Calls that succeed -/

/-- Whether a call has a result. -/
def succeeds (c : DerivationCache) (choice : Nat) : Call → Bool
  | .aliasId _ | .nftId _ => true
  | .foundryId address serialNumber kind =>
    (c.foundryId choice address serialNumber kind).1.isOk

/-- The calls that have a result, of calls made one after the other. -/
def succeeded (c : DerivationCache) : List (Nat × Call) → List Call
  | [] => []
  | (choice, call) :: calls =>
    if c.succeeds choice call then call :: (c.after choice call).succeeded calls
    else (c.after choice call).succeeded calls

/-- The output that the identifier of an alias is asked for. -/
def Call.aliasInput? : Call → Option OutputId
  | .aliasId id => some id
  | _ => none

/-- The output that the identifier of an NFT is asked for. -/
def Call.nftInput? : Call → Option OutputId
  | .nftId id => some id
  | _ => none

/-- The alias and the serial number at 32 bits that the identifier of a foundry is asked for. -/
def Call.foundryInput? : Call → Option (AliasId × UInt32)
  | .foundryId (.alias id) serialNumber _ => some (id, UInt32.ofNat serialNumber.toNat)
  | _ => none

/-- The inputs of calls, repeated ones once. -/
def inputs {α : Type} [DecidableEq α] (input? : Call → Option α) (done : List Call) : Finset α :=
  (done.filterMap input?).toFinset

/-- The key of an input that a foundry is derived from. -/
def inputKey (input : AliasId × UInt32) : Bytes :=
  foundryKey (.alias input.1) input.2 TokenScheme.simpleKind

/-- Each map holds as many inputs of its derivation as it admits, of those that succeeded. -/
structure Fills (capacity : Nat) (done : List Call) (c : DerivationCache) : Prop where
  aliasIds : c.aliasIds.Fills capacity (inputs Call.aliasInput? done)
  nftIds : c.nftIds.Fills capacity (inputs Call.nftInput? done)
  foundryIds : c.foundryIds.Fills capacity ((inputs Call.foundryInput? done).image inputKey)

section

variable {α : Type} [DecidableEq α] (input? : Call → Option α) {done : List Call} {call : Call}

theorem inputs_concat_of_some {a : α} (h : input? call = some a) :
    inputs input? (done ++ [call]) = insert a (inputs input? done) := by
  unfold inputs
  rw [List.filterMap_append, List.toFinset_append, List.filterMap_cons_some h, Finset.union_comm]
  rfl

theorem inputs_concat_of_none (h : input? call = none) :
    inputs input? (done ++ [call]) = inputs input? done := by
  unfold inputs
  rw [List.filterMap_append, List.filterMap_cons_none h, List.filterMap_nil, List.append_nil]

end

theorem inputKey_injective : Function.Injective inputKey := by
  rintro ⟨id, narrow⟩ ⟨id', narrow'⟩ h
  obtain ⟨haddress, rfl, -⟩ := foundryKey_inj h
  cases haddress
  rfl

/-! ## What a call changes -/

variable {c : DerivationCache} {capacity choice : Nat} {done : List Call}

/-- A call for an alias, on the map of aliases. -/
def askAlias (c : DerivationCache) (choice : Nat) (id : OutputId) :
    Except Empty AliasId × BoundedMap OutputId AliasId :=
  c.aliasIds.getOrDerive choice id fun _ => .ok (deriveAliasId id)

/-- A call for an NFT, on the map of NFTs. -/
def askNft (c : DerivationCache) (choice : Nat) (id : OutputId) :
    Except Empty NftId × BoundedMap OutputId NftId :=
  c.nftIds.getOrDerive choice id fun _ => .ok (deriveNftId id)

/-- A call for a foundry whose serial number fits, on the map of foundries. -/
def askFoundry (c : DerivationCache) (choice : Nat) (address : Address) (narrow : UInt32)
    (kind : UInt8) : Except InputError FoundryId × BoundedMap Bytes FoundryId :=
  c.foundryIds.getOrDerive choice (foundryKey address narrow kind) fun _ =>
    deriveFoundryId address (UInt64.ofNat narrow.toNat) kind

theorem after_aliasId (id : OutputId) :
    c.after choice (.aliasId id) = { c with aliasIds := (c.askAlias choice id).2 } := by
  show (c.aliasId choice id).2 = _
  unfold aliasId askAlias
  split
  · next hask => rw [hask]
  · next e _ _ => cases e

theorem after_nftId (id : OutputId) :
    c.after choice (.nftId id) = { c with nftIds := (c.askNft choice id).2 } := by
  show (c.nftId choice id).2 = _
  unfold nftId askNft
  split
  · next hask => rw [hask]
  · next e _ _ => cases e

theorem foundryId_of_narrow {address : Address} {serialNumber : UInt64} {kind : UInt8}
    {narrow : UInt32} (h : narrowSerialNumber serialNumber = .ok narrow) :
    c.foundryId choice address serialNumber kind =
      ((c.askFoundry choice address narrow kind).1,
        { c with foundryIds := (c.askFoundry choice address narrow kind).2 }) := by
  unfold foundryId askFoundry
  rw [h, narrowSerialNumber_eq_ok h]

theorem Sound.askAlias (h : c.Sound) (id : OutputId) :
    (c.askAlias choice id).1 = .ok (deriveAliasId id) :=
  h.aliasIds.getOrDerive_fst fun value hvalue => by rw [hvalue]

theorem Sound.askNft (h : c.Sound) (id : OutputId) :
    (c.askNft choice id).1 = .ok (deriveNftId id) :=
  h.nftIds.getOrDerive_fst fun value hvalue => by rw [hvalue]

/-- A call for a foundry succeeds on the map of foundries, for an alias, and with the result of the
derivation. -/
theorem Sound.foundryId_eq_ok {address : Address} {serialNumber : UInt64} {kind : UInt8}
    {value : FoundryId} (h : c.Sound)
    (hok : (c.foundryId choice address serialNumber kind).1 = .ok value) :
    ∃ id narrow, address = .alias id ∧ kind = TokenScheme.simpleKind ∧
      narrow = UInt32.ofNat serialNumber.toNat ∧ narrowSerialNumber serialNumber = .ok narrow ∧
      deriveFoundryId address serialNumber kind = .ok value ∧
      (c.askFoundry choice address narrow kind).1 = .ok value := by
  have hchecked : checkedFoundryId address serialNumber kind = .ok value := by
    rw [← (h.foundryId address serialNumber kind).1, hok]
  obtain ⟨narrow, hnarrow, hderive⟩ := bind_eq_ok.1 hchecked
  rw [foundryId_of_narrow hnarrow] at hok
  obtain ⟨id, rfl⟩ : ∃ id, address = .alias id := by
    cases address with
    | «alias» id => exact ⟨id, rfl⟩
    | ed25519 hash => cases hderive
    | nft id => cases hderive
  refine ⟨id, narrow, rfl, ?_, ?_, hnarrow, hderive, hok⟩
  · obtain ⟨_, -, hscheme⟩ := bind_eq_ok.1 hderive
    by_contra hkind
    rw [if_neg hkind] at hscheme
    cases hscheme
  · rw [narrowSerialNumber_eq_ok hnarrow, UInt64.toNat_ofNat_of_lt', UInt32.ofNat_toNat]
    exact Nat.lt_trans narrow.toNat_lt (by decide)

/-! ## What a call stores -/

/-- An input is stored with the result of its derivation. -/
def Stores (c : DerivationCache) : Call → Prop
  | .aliasId id => c.aliasIds.find? id = some (deriveAliasId id)
  | .nftId id => c.nftIds.find? id = some (deriveNftId id)
  | .foundryId address serialNumber kind =>
    ∃ narrow value, narrowSerialNumber serialNumber = .ok narrow ∧
      deriveFoundryId address serialNumber kind = .ok value ∧
      c.foundryIds.find? (foundryKey address narrow kind) = some value

/-- Every entry has the result of its derivation. -/
structure Derived (c : DerivationCache) : Prop where
  aliasIds : ∀ entry ∈ c.aliasIds.entries, entry.2 = deriveAliasId entry.1
  nftIds : ∀ entry ∈ c.nftIds.entries, entry.2 = deriveNftId entry.1
  foundryIds : ∀ entry ∈ c.foundryIds.entries, ∃ id narrow, entry.1 = inputKey (id, narrow) ∧
    deriveFoundryId (.alias id) (UInt64.ofNat narrow.toNat) TokenScheme.simpleKind = .ok entry.2

theorem exists_of_succeeds {address : Address} {serialNumber : UInt64} {kind : UInt8}
    (h : c.succeeds choice (.foundryId address serialNumber kind) = true) :
    ∃ value, (c.foundryId choice address serialNumber kind).1 = .ok value := by
  change (c.foundryId choice address serialNumber kind).1.isOk = true at h
  cases hresult : (c.foundryId choice address serialNumber kind).1 with
  | ok value => exact ⟨value, rfl⟩
  | error e =>
    rw [hresult] at h
    cases h

theorem Sound.stores_after (h : c.Sound) {call : Call} (halias : 0 < c.aliasIds.capacity)
    (hnft : 0 < c.nftIds.capacity) (hfoundry : 0 < c.foundryIds.capacity)
    (hok : c.succeeds choice call = true) : (c.after choice call).Stores call := by
  cases call with
  | aliasId id =>
    rw [after_aliasId]
    exact BoundedMap.find?_getOrDerive halias (h.askAlias id)
  | nftId id =>
    rw [after_nftId]
    exact BoundedMap.find?_getOrDerive hnft (h.askNft id)
  | foundryId address serialNumber kind =>
    obtain ⟨value, hvalue⟩ := exists_of_succeeds hok
    obtain ⟨id, narrow, -, -, -, hnarrow, hderive, hask⟩ := h.foundryId_eq_ok hvalue
    refine ⟨narrow, value, hnarrow, hderive, ?_⟩
    show (c.foundryId choice address serialNumber kind).2.foundryIds.find? _ = _
    rw [foundryId_of_narrow hnarrow]
    exact BoundedMap.find?_getOrDerive hfoundry hask

/-- A call without result leaves the cache as it is. -/
theorem after_of_not_succeeds {call : Call} (h : ¬ c.succeeds choice call = true) :
    c.after choice call = c := by
  cases call with
  | aliasId id => exact absurd rfl h
  | nftId id => exact absurd rfl h
  | foundryId address serialNumber kind =>
    change ¬ (c.foundryId choice address serialNumber kind).1.isOk = true at h
    cases hresult : (c.foundryId choice address serialNumber kind).1 with
    | ok value =>
      rw [hresult] at h
      exact absurd rfl h
    | error e => exact foundryId_of_error hresult

/-! ## The invariant -/

namespace Fills

theorem empty (capacity : Nat) : Fills capacity [] (.empty capacity) where
  aliasIds := BoundedMap.fills_empty capacity
  nftIds := BoundedMap.fills_empty capacity
  foundryIds := BoundedMap.fills_empty capacity

/-- A call that succeeds. -/
theorem after (h : Fills capacity done c) (hsound : c.Sound) {call : Call}
    (hok : c.succeeds choice call = true) :
    Fills capacity (done ++ [call]) (c.after choice call) := by
  cases call with
  | aliasId id =>
    rw [after_aliasId]
    refine ⟨?_, ?_, ?_⟩
    · rw [inputs_concat_of_some Call.aliasInput? rfl]
      exact h.aliasIds.getOrDerive (hsound.askAlias id)
    · rw [inputs_concat_of_none Call.nftInput? rfl]
      exact h.nftIds
    · rw [inputs_concat_of_none Call.foundryInput? rfl]
      exact h.foundryIds
  | nftId id =>
    rw [after_nftId]
    refine ⟨?_, ?_, ?_⟩
    · rw [inputs_concat_of_none Call.aliasInput? rfl]
      exact h.aliasIds
    · rw [inputs_concat_of_some Call.nftInput? rfl]
      exact h.nftIds.getOrDerive (hsound.askNft id)
    · rw [inputs_concat_of_none Call.foundryInput? rfl]
      exact h.foundryIds
  | foundryId address serialNumber kind =>
    obtain ⟨value, hvalue⟩ := exists_of_succeeds hok
    obtain ⟨id, narrow, rfl, rfl, rfl, hnarrow, -, hask⟩ := hsound.foundryId_eq_ok hvalue
    show Fills capacity _ (c.foundryId choice _ serialNumber _).2
    rw [foundryId_of_narrow hnarrow]
    refine ⟨?_, ?_, ?_⟩
    · rw [inputs_concat_of_none Call.aliasInput? rfl]
      exact h.aliasIds
    · rw [inputs_concat_of_none Call.nftInput? rfl]
      exact h.nftIds
    · rw [inputs_concat_of_some Call.foundryInput? rfl, Finset.image_insert]
      exact h.foundryIds.getOrDerive hask

/-- Every call keeps the invariant, with the inputs that succeeded. -/
theorem run (h : Fills capacity done c) (hsound : c.Sound) (calls : List (Nat × Call)) :
    Fills capacity (done ++ c.succeeded calls) (c.run calls) := by
  induction calls generalizing done c with
  | nil => rwa [succeeded, List.append_nil]
  | cons entry calls ih =>
    obtain ⟨choice, call⟩ := entry
    unfold succeeded
    split
    · next hok =>
      have hrest := ih (h.after hsound hok) (hsound.after choice call)
      rwa [List.append_assoc] at hrest
    · next hfailed =>
      refine ih ?_ (hsound.after choice call)
      rwa [after_of_not_succeeds hfailed]

theorem size_eq (h : Fills capacity done c) :
    c.size = min capacity (inputs Call.aliasInput? done).card +
      min capacity (inputs Call.nftInput? done).card +
      min capacity (inputs Call.foundryInput? done).card := by
  have hfoundries : ((inputs Call.foundryInput? done).image inputKey).card =
      (inputs Call.foundryInput? done).card :=
    Finset.card_image_of_injective _ inputKey_injective
  unfold size
  rw [h.aliasIds.size_eq, h.nftIds.size_eq, h.foundryIds.size_eq, hfoundries]

theorem derived (h : Fills capacity done c) (hsound : c.Sound) : c.Derived where
  aliasIds entry hentry := (hsound.aliasIds entry hentry).symm
  nftIds entry hentry := (hsound.nftIds entry hentry).symm
  foundryIds entry hentry := by
    obtain ⟨⟨id, narrow⟩, -, hkey⟩ := Finset.mem_image.1
      (h.foundryIds.mem_asked entry.1 (List.mem_map_of_mem hentry))
    exact ⟨id, narrow, hkey.symm,
      hsound.foundryIds entry hentry _ _ _ narrow (narrowSerialNumber_ofNat narrow) hkey⟩

end Fills

/-! ## Entries that are given up -/

/-- The number of entries that a later cache does not have. -/
def lost (c later : DerivationCache) : Nat :=
  (c.aliasIds.lost later.aliasIds).length + (c.nftIds.lost later.nftIds).length +
    (c.foundryIds.lost later.foundryIds).length

theorem after_foundryId (c : DerivationCache) (choice : Nat) (address : Address)
    (serialNumber : UInt64) (kind : UInt8) :
    c.after choice (.foundryId address serialNumber kind) = c ∨
      ∃ narrow, c.after choice (.foundryId address serialNumber kind) =
        { c with foundryIds := (c.askFoundry choice address narrow kind).2 } := by
  show (c.foundryId choice address serialNumber kind).2 = c ∨
    ∃ narrow, (c.foundryId choice address serialNumber kind).2 = _
  cases hnarrow : narrowSerialNumber serialNumber with
  | error e =>
    left
    unfold foundryId
    rw [hnarrow]
  | ok narrow =>
    right
    exact ⟨narrow, by rw [foundryId_of_narrow hnarrow]⟩

/-- A call gives up one entry at most, of the map it is made on. -/
theorem lost_after_le (choice : Nat) (call : Call) : c.lost (c.after choice call) ≤ 1 := by
  unfold lost
  cases call with
  | aliasId id =>
    simp only [after_aliasId, BoundedMap.lost_self, List.length_nil, Nat.add_zero]
    exact BoundedMap.length_lost_getOrDerive_le
  | nftId id =>
    simp only [after_nftId, BoundedMap.lost_self, List.length_nil, Nat.add_zero, Nat.zero_add]
    exact BoundedMap.length_lost_getOrDerive_le
  | foundryId address serialNumber kind =>
    obtain h | ⟨narrow, h⟩ := c.after_foundryId choice address serialNumber kind
    · rw [h]
      simp
    · simp only [h, BoundedMap.lost_self, List.length_nil, Nat.zero_add]
      exact BoundedMap.length_lost_getOrDerive_le

/-- Every entry of a map that is below its capacity is kept. -/
structure KeepsBelowCapacity (c later : DerivationCache) : Prop where
  aliasIds : c.aliasIds.size < c.aliasIds.capacity → c.aliasIds.lost later.aliasIds = []
  nftIds : c.nftIds.size < c.nftIds.capacity → c.nftIds.lost later.nftIds = []
  foundryIds : c.foundryIds.size < c.foundryIds.capacity → c.foundryIds.lost later.foundryIds = []

theorem KeepsBelowCapacity.refl (c : DerivationCache) : c.KeepsBelowCapacity c where
  aliasIds _ := BoundedMap.lost_self
  nftIds _ := BoundedMap.lost_self
  foundryIds _ := BoundedMap.lost_self

theorem keepsBelowCapacity_after (choice : Nat) (call : Call) :
    c.KeepsBelowCapacity (c.after choice call) := by
  have hself := KeepsBelowCapacity.refl c
  cases call with
  | aliasId id =>
    rw [after_aliasId]
    exact { hself with aliasIds := BoundedMap.lost_getOrDerive_of_lt }
  | nftId id =>
    rw [after_nftId]
    exact { hself with nftIds := BoundedMap.lost_getOrDerive_of_lt }
  | foundryId address serialNumber kind =>
    obtain h | ⟨narrow, h⟩ := c.after_foundryId choice address serialNumber kind
    · rw [h]
      exact hself
    · rw [h]
      exact { hself with foundryIds := BoundedMap.lost_getOrDerive_of_lt }

/-! ## The law -/

/-- After any calls on a new cache, with whatever entries given up, each map has as many entries as
different inputs have succeeded, up to the capacity, and every entry is that of its derivation. One
more call stores what it was asked for if it succeeds and something is stored at all, and changes
nothing if it fails; it gives up one entry at most, and only where the map is full. -/
theorem size_law (capacity : Nat) (calls : List (Nat × Call)) :
    let c := (empty capacity).run calls
    let done := (empty capacity).succeeded calls
    c.size = min capacity (inputs Call.aliasInput? done).card +
        min capacity (inputs Call.nftInput? done).card +
        min capacity (inputs Call.foundryInput? done).card ∧
      c.Derived ∧
      ∀ choice call,
        let later := c.after choice call
        (c.succeeds choice call = true → 0 < capacity → later.Stores call) ∧
        (¬ c.succeeds choice call = true → later = c) ∧
        c.lost later ≤ 1 ∧
        (c.aliasIds.size < capacity → c.aliasIds.lost later.aliasIds = []) ∧
        (c.nftIds.size < capacity → c.nftIds.lost later.nftIds = []) ∧
        (c.foundryIds.size < capacity → c.foundryIds.lost later.foundryIds = []) := by
  intro c done
  have hsound : c.Sound := sound_run capacity calls
  have hfills : Fills capacity done c := (Fills.empty capacity).run (sound_empty capacity) calls
  have hcapacity := hfills.aliasIds.capacity_eq
  have hcapacity' := hfills.nftIds.capacity_eq
  have hcapacity'' := hfills.foundryIds.capacity_eq
  refine ⟨hfills.size_eq, hfills.derived hsound, fun choice call => ?_⟩
  have hkeeps := c.keepsBelowCapacity_after choice call
  refine ⟨fun hok hpos => ?_, after_of_not_succeeds, c.lost_after_le choice call, ?_, ?_, ?_⟩
  · exact hsound.stores_after (by rwa [hcapacity]) (by rwa [hcapacity']) (by rwa [hcapacity'']) hok
  · exact fun hlt => hkeeps.aliasIds (by rwa [hcapacity])
  · exact fun hlt => hkeeps.nftIds (by rwa [hcapacity'])
  · exact fun hlt => hkeeps.foundryIds (by rwa [hcapacity''])

/-- A cache for one result of each derivation, asked for two aliases, for a foundry of an address
that is no alias, and for a foundry: it has an alias and the foundry, and then stores the first alias
again for the second. -/
theorem size_law_of_two_aliases :
    let identifier : AliasId := ⟨List.replicate 32 1, rfl⟩
    let first : OutputId := ⟨⟨List.replicate 32 0, rfl⟩, 0⟩
    let second : OutputId := ⟨⟨List.replicate 32 0, rfl⟩, 1⟩
    let failing : Call := .foundryId (.ed25519 ⟨List.replicate 32 0, rfl⟩) 1 0
    let c := (empty 1).run [(0, .aliasId first), (0, .aliasId second), (0, failing),
      (0, .foundryId (.alias identifier) 1 0)]
    c.size = 2 ∧ (c.after 0 (.aliasId first)).Stores (.aliasId first) ∧
      c.lost (c.after 0 (.aliasId first)) ≤ 1 ∧ c.after 0 failing = c ∧
      c.nftIds.lost (c.after 0 failing).nftIds = [] := by
  intro identifier first second failing c
  obtain ⟨hsize, -, hcall⟩ := size_law 1 [(0, .aliasId first), (0, .aliasId second), (0, failing),
    (0, .foundryId (.alias identifier) 1 0)]
  obtain ⟨hstores, -, hlost, -⟩ := hcall 0 (.aliasId first)
  obtain ⟨-, hfailed, -, -, hnft, -⟩ := hcall 0 failing
  refine ⟨hsize.trans (by decide +kernel), hstores rfl Nat.zero_lt_one, hlost, ?_, ?_⟩
  · exact hfailed (by decide)
  · exact hnft (by decide)

end UtxoCodec.DerivationCache
