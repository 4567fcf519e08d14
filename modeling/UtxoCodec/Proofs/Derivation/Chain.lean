import UtxoCodec.Proofs.Acceptance
import UtxoCodec.Proofs.Derivation.Cache

/-!
# Chains of verified outputs

An output that verifies has the identifier of a chain if and only if it is of a kind that has one.
For a foundry that depends on the rules of verification: its only unlock condition names an alias,
and its token scheme is the known one (`FoundryOutput.chainId_of_verify`). The identifier of a
foundry can be taken apart again, so foundries of different aliases or serial numbers are different
chains (`FoundryId.build_inj`). Alias and NFT outputs carry the identifier of their chain in a field.
In the first output of a chain the field is null, and the hash of the identifier that the output was
created under is the one that the later outputs carry.

Main statement: `chain_of_verified`.
-/

namespace UtxoCodec

open Outcome

/-! ## The layout of foundry identifiers -/

namespace FoundryId

variable (id : AliasId) (serialNumber : UInt32) (tokenSchemeKind : UInt8)

theorem aliasId_build : (build id serialNumber tokenSchemeKind).aliasId = id := by
  have hlen : id.bytes.length = 32 := id.length_eq
  have htake : (id.bytes ++ Bytes.littleEndian 4 serialNumber.toNat ++ [tokenSchemeKind]).take 32 =
      id.bytes := by
    rw [List.append_assoc]
    exact List.take_left' hlen
  unfold aliasId build
  simp only [List.cons_append, List.drop_succ_cons, List.drop_zero, htake]

theorem serialNumber_build :
    (build id serialNumber tokenSchemeKind).serialNumber = serialNumber := by
  have hlen : id.bytes.length = 32 := id.length_eq
  have hdrop : (id.bytes ++ Bytes.littleEndian 4 serialNumber.toNat ++ [tokenSchemeKind]).drop 32 =
      Bytes.littleEndian 4 serialNumber.toNat ++ [tokenSchemeKind] := by
    rw [List.append_assoc]
    exact List.drop_left' hlen
  have htake : (Bytes.littleEndian 4 serialNumber.toNat ++ [tokenSchemeKind]).take 4 =
      Bytes.littleEndian 4 serialNumber.toNat :=
    List.take_left' (Bytes.length_littleEndian ..)
  have hlt : serialNumber.toNat < Bytes.capacity 4 := serialNumber.toNat_lt
  unfold FoundryId.serialNumber build
  simp only [List.cons_append, List.drop_succ_cons, hdrop, htake, Bytes.value_littleEndian,
    Nat.mod_eq_of_lt hlt, UInt32.ofNat_toNat]

theorem tokenSchemeKind_build :
    (build id serialNumber tokenSchemeKind).tokenSchemeKind = tokenSchemeKind := by
  have hlen : (8 :: id.bytes ++ Bytes.littleEndian 4 serialNumber.toNat).length = 37 := by
    simp [id.length_eq, IdKind.size]
  unfold FoundryId.tokenSchemeKind build
  rw [← hlen]
  simp

/-- Foundries of different aliases or serial numbers have different identifiers. -/
theorem build_inj {id id' : AliasId} {serialNumber serialNumber' : UInt32} {kind kind' : UInt8} :
    build id serialNumber kind = build id' serialNumber' kind' ↔
      id = id' ∧ serialNumber = serialNumber' ∧ kind = kind' := by
  constructor
  · intro h
    refine ⟨?_, ?_, ?_⟩
    · rw [← aliasId_build id serialNumber kind, h, aliasId_build]
    · rw [← serialNumber_build id serialNumber kind, h, serialNumber_build]
    · rw [← tokenSchemeKind_build id serialNumber kind, h, tokenSchemeKind_build]
  · rintro ⟨rfl, rfl, rfl⟩
    rfl

end FoundryId

/-! ## Foundries that verify -/

theorem TokenScheme.kind_of_acceptable {s : TokenScheme} (h : s.Acceptable) :
    s.kind = simpleKind := by
  cases s with
  | simple s => rfl
  | unknown u => exact h.elim

/-- Where the condition of a foundry is the only one accepted, it is the only one, and its address
is that of an alias. -/
theorem UnlockConditions.Acceptable.eq_immutableAlias {cs : UnlockConditions}
    (h : cs.Acceptable [6] [6]) : ∃ id, cs.items = [.immutableAlias (.alias id)] := by
  obtain ⟨⟨hincreasing, hallowed, hrequired⟩, hitems⟩ := h
  have hkind : ∀ c ∈ cs.items, c.kind = 6 := fun c hc =>
    List.mem_singleton.1 (hallowed c.kind (List.mem_map_of_mem hc))
  match hcs : cs.items with
  | [] =>
    rw [hcs] at hrequired
    exact absurd (hrequired 6 (List.mem_singleton.2 rfl)) List.not_mem_nil
  | [c] =>
    rw [hcs] at hkind hitems
    have hc : c.Acceptable := hitems c (List.mem_singleton.2 rfl)
    cases c with
    | immutableAlias a =>
      obtain ⟨id, rfl⟩ := hc
      exact ⟨id, rfl⟩
    | unknown u => exact hc.elim
    | _ => exact absurd (hkind _ (List.mem_singleton.2 rfl)) (by simp [UnlockCondition.kind])
  | c :: d :: rest =>
    rw [hcs] at hkind hincreasing
    have hlt : c.kind < d.kind := by
      rw [List.map_cons, List.map_cons, List.pairwise_cons] at hincreasing
      exact hincreasing.1 d.kind List.mem_cons_self
    rw [hkind c (by simp), hkind d (by simp)] at hlt
    exact absurd hlt (by decide)

/-- The identifier of a foundry that verifies does not depend on the output it was created as. -/
theorem FoundryOutput.chainId_of_verify {o : FoundryOutput} (h : o.verify = .ok ()) :
    ∃ a, o.unlockConditions.items = [.immutableAlias (.alias a)] ∧ o.aliasId? = some a ∧
      ∀ i, deriveChainId (.foundry o) i = .ok (.foundry (.build a o.serialNumber 0)) := by
  have hacceptable := verify_iff_acceptable.1 h
  obtain ⟨a, hitems⟩ := hacceptable.unlockConditions.eq_immutableAlias
  have haddress : o.unlockConditions.immutableAlias? = some (.alias a) := by
    unfold UnlockConditions.immutableAlias?
    rw [hitems]
    rfl
  refine ⟨a, hitems, ?_, fun i => ?_⟩
  · unfold aliasId?
    rw [haddress]
  · have hkind : o.tokenScheme.kind = TokenScheme.simpleKind :=
      TokenScheme.kind_of_acceptable hacceptable.tokenScheme
    unfold deriveChainId
    simp only [haddress, deriveFoundryId, narrowSerialNumber_ofNat, hkind]
    rfl

/-! ## The field of alias and NFT outputs -/

/-- The bytes of the identifier. -/
def ChainId.bytes : ChainId → Bytes
  | .alias id => id.bytes
  | .nft id => id.bytes
  | .foundry id => id.bytes

/-- Whether every byte is zero. -/
def ChainId.isNull (c : ChainId) : Bool := c.bytes.all (· == 0)

namespace Output

/-- The kinds of output that continue a chain. -/
def HasChain : Output → Prop
  | .alias _ | .foundry _ | .nft _ => True
  | .treasury _ | .basic _ | .unknown _ => False

/-- The identifier in the output's own field, if its kind has such a field. -/
def chainField? : Output → Option ChainId
  | .alias o => some (.alias o.aliasId)
  | .nft o => some (.nft o.nftId)
  | _ => none

/-- The output with another identifier in that field. -/
def withChainField (c : ChainId) : Output → Output
  | .alias o =>
    match c with
    | .alias id => .alias { o with aliasId := id }
    | _ => .alias o
  | .nft o =>
    match c with
    | .nft id => .nft { o with nftId := id }
    | _ => .nft o
  | o => o

/-- No rule of verification concerns the field. -/
theorem verify_withChainField (c : ChainId) (o : Output) :
    (o.withChainField c).verify = o.verify := by
  cases o with
  | «alias» o => cases c <;> rfl
  | nft o => cases c <;> rfl
  | _ => rfl

end Output

variable {o : Output} {own : ChainId}

/-- The identifier in the field is that of the chain, unless it is null. -/
theorem deriveChainId_of_not_null (hown : o.chainField? = some own) (hnull : own.isNull = false)
    (i : OutputId) : deriveChainId o i = .ok own := by
  cases o with
  | «alias» o =>
    cases hown
    have hid : o.aliasId.isNull = false := hnull
    simp [deriveChainId, hid]
  | nft o =>
    cases hown
    have hid : o.nftId.isNull = false := hnull
    simp [deriveChainId, hid]
  | _ => cases hown

/-- The first output of a chain has the hash of its own identifier as that of the chain. -/
theorem deriveChainId_of_null (hown : o.chainField? = some own) (hnull : own.isNull = true)
    (i : OutputId) :
    ∃ c, deriveChainId o i = .ok c ∧ c.bytes = hashOutputId i ∧
      (o.withChainField c).chainField? = some c := by
  cases o with
  | «alias» o =>
    cases hown
    have hid : o.aliasId.isNull = true := hnull
    refine ⟨.alias (deriveAliasId i), ?_, rfl, rfl⟩
    simp [deriveChainId, hid]
  | nft o =>
    cases hown
    have hid : o.nftId.isNull = true := hnull
    refine ⟨.nft (deriveNftId i), ?_, rfl, rfl⟩
    simp [deriveChainId, hid]
  | _ => cases hown

/-! ## The statement -/

/-- An output that verifies has an identifier if it is an alias, a foundry or an NFT. -/
theorem exists_deriveChainId_iff (h : o.verify = .ok ()) (i : OutputId) :
    (∃ c, deriveChainId o i = .ok c) ↔ o.HasChain := by
  cases o with
  | «alias» o => exact iff_of_true ⟨_, rfl⟩ trivial
  | nft o => exact iff_of_true ⟨_, rfl⟩ trivial
  | foundry o =>
    obtain ⟨a, -, -, hderive⟩ := FoundryOutput.chainId_of_verify h
    exact iff_of_true ⟨_, hderive i⟩ trivial
  | _ =>
    refine iff_of_false ?_ id
    rintro ⟨c, hc⟩
    cases hc

/-- What the chain identifiers of an output are. -/
structure Output.ChainLaws (o : Output) : Prop where
  /-- Outputs of a chain have one under every output identifier, and no others. -/
  exists_iff : ∀ i, (∃ c, deriveChainId o i = .ok c) ↔ o.HasChain
  /-- That of a foundry is made of the alias in its only condition, its serial number and zero. -/
  foundry : ∀ f, o = .foundry f → ∀ i, ∃ a id,
    f.unlockConditions.items = [.immutableAlias (.alias a)] ∧
      deriveChainId o i = .ok (.foundry id) ∧ id.aliasId = a ∧ id.serialNumber = f.serialNumber ∧
        id.tokenSchemeKind = 0
  /-- Foundries are of one chain if they have the same alias and the same serial number. -/
  foundry_eq_iff : ∀ f g, o = .foundry f → g.verify = .ok () → ∀ i j,
    deriveChainId (.foundry f) i = deriveChainId (.foundry g) j ↔
      f.aliasId? = g.aliasId? ∧ f.serialNumber = g.serialNumber
  /-- The first output of a chain gives its identifier to the later ones. -/
  first : ∀ own, o.chainField? = some own → own.isNull = true → ∀ i, ∃ c,
    deriveChainId o i = .ok c ∧ c.bytes = hashOutputId i ∧
      (c.isNull = false → (o.withChainField c).chainField? = some c ∧
        (o.withChainField c).verify = .ok () ∧ ∀ j, deriveChainId (o.withChainField c) j = .ok c)
  /-- The later ones keep it. -/
  later : ∀ own, o.chainField? = some own → own.isNull = false → ∀ i, deriveChainId o i = .ok own

/-- The chain identifiers of an output that verifies. -/
theorem chain_of_verified (h : o.verify = .ok ()) : o.ChainLaws where
  exists_iff i := exists_deriveChainId_iff h i
  foundry f hf i := by
    subst hf
    obtain ⟨a, hitems, -, hderive⟩ := FoundryOutput.chainId_of_verify h
    exact ⟨a, _, hitems, hderive i, FoundryId.aliasId_build .., FoundryId.serialNumber_build ..,
      FoundryId.tokenSchemeKind_build ..⟩
  foundry_eq_iff f g hf hg i j := by
    subst hf
    obtain ⟨a, -, ha, hderive⟩ := FoundryOutput.chainId_of_verify h
    obtain ⟨b, -, hb, hderive'⟩ := FoundryOutput.chainId_of_verify hg
    rw [hderive i, hderive' j, ha, hb]
    simp [FoundryId.build_inj]
  first own hown hnull i := by
    obtain ⟨c, hderive, hbytes, hfield⟩ := deriveChainId_of_null hown hnull i
    refine ⟨c, hderive, hbytes, fun hc => ⟨hfield, ?_, deriveChainId_of_not_null hfield hc⟩⟩
    rw [Output.verify_withChainField]
    exact h
  later own hown hnull i := deriveChainId_of_not_null hown hnull i

/-- A foundry of an alias, and the first output of an alias. -/
theorem chain_of_verified_foundry_and_first_alias :
    let identifier : AliasId := ⟨List.replicate 32 1, rfl⟩
    let f : FoundryOutput := ⟨⟨1⟩, .empty, 7, .simple ⟨0, 0, 1⟩,
      ⟨[.immutableAlias (.alias identifier)]⟩, .empty, .empty⟩
    let o : AliasOutput := ⟨⟨1⟩, .empty, .null, 0, [], 0,
      ⟨[.stateController (.alias identifier), .governor (.alias identifier)]⟩, .empty, .empty⟩
    let i : OutputId := ⟨⟨List.replicate 32 0, rfl⟩, 0⟩
    (∃ id, deriveChainId (.foundry f) i = .ok (.foundry id) ∧ id.serialNumber = 7) ∧
      ∃ c, deriveChainId (.alias o) i = .ok c ∧
        ∀ j, deriveChainId ((Output.alias o).withChainField c) j = .ok c := by
  intro identifier f o i
  have hf : (Output.foundry f).verify = .ok () := by decide
  have ho : (Output.alias o).verify = .ok () := by decide
  refine ⟨?_, ?_⟩
  · obtain ⟨-, id, -, hid, -, hserial, -⟩ := (chain_of_verified hf).foundry f rfl i
    exact ⟨id, hid, hserial⟩
  · obtain ⟨c, hc, hbytes, hstable⟩ := (chain_of_verified ho).first (.alias .null) rfl (by decide) i
    have hnull : c.isNull = false := by
      have hhash : (hashOutputId i).all (· == 0) = false := by decide +kernel
      rw [ChainId.isNull, hbytes, hhash]
    exact ⟨c, hc, (hstable hnull).2.2⟩

end UtxoCodec
