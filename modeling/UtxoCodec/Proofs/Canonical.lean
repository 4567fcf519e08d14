import UtxoCodec.Proofs.Packing.Decode

/-!
# Canonical binary forms

A value that verifies has one binary form, the form is read back as the value, and nothing else is
read. Main statement: `binary_forms_canonical`, for outputs with `encode` and `decode`, opaque ones
included, and for everything that outputs are made of with `verify`, `pack` and `unpackExact`.
-/

namespace UtxoCodec

/-- Binary forms are canonical: `pack` and `unpackExact` are inverse to each other between the
values that verify and the inputs that are read. -/
structure CanonicalPacking (α : Type) [Packable α] : Prop where
  unpackExact_pack : ∀ a : α, verify a = .ok () → unpackExact (pack a) = .ok a
  pack_unpackExact : ∀ (input : Bytes) (a : α), unpackExact input = .ok a →
    verify a = .ok () ∧ pack a = input
  verify_iff : ∀ a : α, verify a = .ok () ↔ unpackExact (pack a) = .ok a
  pack_injective : ∀ a b : α, verify a = .ok () → verify b = .ok () → pack a = pack b → a = b

theorem LawfulPackable.canonical (α : Type) [Packable α] [LawfulPackable α] :
    CanonicalPacking α where
  unpackExact_pack _ hv := unpackExact_eq_ok.2 ⟨hv, rfl⟩
  pack_unpackExact _ _ h := unpackExact_eq_ok.1 h
  verify_iff a := by
    rw [unpackExact_eq_ok]
    exact (and_iff_left rfl).symm
  pack_injective a b ha hb heq := by
    have hread : unpackExact (pack b) = .ok a := unpackExact_eq_ok.2 ⟨ha, heq⟩
    rw [unpackExact_eq_ok.2 ⟨hb, rfl⟩] at hread
    cases hread
    rfl

namespace Output

theorem encode_eq_ok_iff_decode {o : Output} {bytes : Bytes} :
    o.encode = .ok bytes ↔ decode bytes = .ok o := by
  rw [encode_eq_ok, decode_eq_ok]

theorem verify_iff_decode_pack (o : Output) : o.verify = .ok () ↔ decode o.pack = .ok o := by
  rw [decode_eq_ok]
  exact (and_iff_left rfl).symm

/-- No bytes are the encoding of two outputs. -/
theorem encode_injective {o o' : Output} {bytes : Bytes} (h : o.encode = .ok bytes)
    (h' : o'.encode = .ok bytes) : o = o' := by
  rw [encode_eq_ok_iff_decode] at h h'
  rw [h] at h'
  cases h'
  rfl

end Output

/-- The binary codec is canonical, for outputs and for everything that they are made of. -/
theorem binary_forms_canonical :
    ((∀ (o : Output) (bytes : Bytes), o.encode = .ok bytes → Output.decode bytes = .ok o) ∧
      (∀ (bytes : Bytes) (o : Output), Output.decode bytes = .ok o → o.encode = .ok bytes) ∧
      (∀ o : Output, o.verify = .ok () ↔ Output.decode o.pack = .ok o) ∧
      ∀ (o o' : Output) (bytes : Bytes), o.encode = .ok bytes → o'.encode = .ok bytes → o = o') ∧
    (∀ kind, CanonicalPacking (Identifier kind)) ∧ CanonicalPacking OutputId ∧
    CanonicalPacking Address ∧ CanonicalPacking Amount ∧
    CanonicalPacking NativeToken ∧ CanonicalPacking NativeTokens ∧ CanonicalPacking TokenScheme ∧
    CanonicalPacking UnlockCondition ∧ CanonicalPacking UnlockConditions ∧
    CanonicalPacking Feature ∧ CanonicalPacking Features ∧
    CanonicalPacking TreasuryOutput ∧ CanonicalPacking BasicOutput ∧ CanonicalPacking AliasOutput ∧
    CanonicalPacking FoundryOutput ∧ CanonicalPacking NftOutput := by
  refine ⟨⟨?_, ?_, ?_, ?_⟩, fun kind => ?_, ?_, ?_, ?_, ?_, ?_, ?_, ?_, ?_, ?_, ?_, ?_, ?_, ?_, ?_, ?_⟩
  · intro o bytes h
    exact Output.encode_eq_ok_iff_decode.1 h
  · intro bytes o h
    exact Output.encode_eq_ok_iff_decode.2 h
  · exact Output.verify_iff_decode_pack
  · intro o o' bytes h h'
    exact Output.encode_injective h h'
  all_goals exact LawfulPackable.canonical _

/-- A basic output with a native token, two conditions and two features. Its conditions are canonical
by themselves too. -/
theorem binary_forms_canonical_basic :
    let conditions : UnlockConditions :=
      ⟨[.address (.alias ⟨List.replicate 32 1, rfl⟩), .timelock ⟨9⟩]⟩
    let o := Output.basic ⟨⟨5⟩, ⟨[⟨⟨List.replicate 38 8, rfl⟩, 7⟩]⟩, conditions,
      ⟨[.metadata [1, 2], .tag [3]]⟩⟩
    let packedConditions := [2, 0, 8] ++ List.replicate 32 1 ++ [2, 9, 0, 0, 0]
    let bytes := [3, 5, 0, 0, 0, 0, 0, 0, 0, 1] ++ List.replicate 38 8 ++ 7 :: List.replicate 31 0 ++
      packedConditions ++ [2, 2, 2, 0, 1, 2, 3, 1, 3]
    o.encode = .ok bytes ∧ Output.decode bytes = .ok o ∧ o.verify = .ok () ∧
      unpackExact packedConditions = .ok conditions := by
  intro conditions o packedConditions bytes
  have hpack : o.pack = bytes := by decide +kernel
  have hencode : o.encode = .ok bytes := Output.encode_eq_ok.2 ⟨rfl, hpack⟩
  have hdecode : Output.decode bytes = .ok o := binary_forms_canonical.1.1 _ _ hencode
  have hverify : o.verify = .ok () := by
    refine (binary_forms_canonical.1.2.2.1 o).2 ?_
    rw [hpack]
    exact hdecode
  have hpacked : pack conditions = packedConditions := by decide +kernel
  obtain ⟨-, -, -, -, -, -, -, -, -, hconditions, -⟩ := binary_forms_canonical
  have hread := hconditions.unpackExact_pack conditions rfl
  rw [hpacked] at hread
  exact ⟨hencode, hdecode, hverify, hread⟩

end UtxoCodec
