import UtxoCodec.Proofs.Packing.Output

/-!
# Encoding and decoding outputs

The sum of the kinds is read lawfully. An input in which the strict reader meets an unknown kind
(`Output.MeetsUnknown`) is decoded to an opaque output; the check of an opaque body asks for the
same, so both directions line up. Main statement: `Output.decode_eq_ok` says that an output is
decoded from its binary form and from nothing else, opaque outputs included.
-/

namespace UtxoCodec

open Unpacker

/-! ## The sum of the kinds -/

namespace Output

/-- Whether the output is of a known kind, not an opaque one. -/
def IsKnown (o : Output) : Prop := ∀ u, o ≠ unknown u

theorem isKnown_or (o : Output) : o.IsKnown ∨ ∃ u, o = unknown u := by
  cases o with
  | unknown u => exact .inr ⟨u, rfl⟩
  | _ => exact .inl fun _ h => by cases h

/-- What is read behind the kind byte. -/
theorem unpack_cases {checking : Checking} {input rest : Bytes} {o : Output}
    (h : unpack checking input = .ok (o, rest)) :
    ∃ body, input = o.kind :: body ∧
      ((∃ x, o = treasury x ∧ Packable.unpack checking body = .ok (x, rest)) ∨
       (∃ x, o = basic x ∧ Packable.unpack checking body = .ok (x, rest)) ∨
       (∃ x, o = «alias» x ∧ Packable.unpack checking body = .ok (x, rest)) ∨
       (∃ x, o = foundry x ∧ Packable.unpack checking body = .ok (x, rest)) ∨
       (∃ x, o = nft x ∧ Packable.unpack checking body = .ok (x, rest))) := by
  obtain ⟨kind, body, hkind, hbody⟩ := bind_eq_ok.1 h
  obtain rfl := byte_eq_ok.1 hkind
  refine ⟨body, ?_⟩
  split at hbody
  · next hk =>
    obtain ⟨x, hx, rfl⟩ := map_eq_ok.1 hbody
    exact ⟨by rw [hk]; rfl, .inl ⟨x, rfl, hx⟩⟩
  split at hbody
  · next hk =>
    obtain ⟨x, hx, rfl⟩ := map_eq_ok.1 hbody
    exact ⟨by rw [hk]; rfl, .inr (.inl ⟨x, rfl, hx⟩)⟩
  split at hbody
  · next hk =>
    obtain ⟨x, hx, rfl⟩ := map_eq_ok.1 hbody
    exact ⟨by rw [hk]; rfl, .inr (.inr (.inl ⟨x, rfl, hx⟩))⟩
  split at hbody
  · next hk =>
    obtain ⟨x, hx, rfl⟩ := map_eq_ok.1 hbody
    exact ⟨by rw [hk]; rfl, .inr (.inr (.inr (.inl ⟨x, rfl, hx⟩)))⟩
  split at hbody
  · next hk =>
    obtain ⟨x, hx, rfl⟩ := map_eq_ok.1 hbody
    exact ⟨by rw [hk]; rfl, .inr (.inr (.inr (.inr ⟨x, rfl, hx⟩)))⟩
  · cases hbody

/-- The readers of the kinds never give an opaque output. -/
theorem isKnown_of_unpack {checking : Checking} {input rest : Bytes} {o : Output}
    (h : unpack checking input = .ok (o, rest)) : o.IsKnown := by
  obtain ⟨body, -, ⟨x, rfl, -⟩ | ⟨x, rfl, -⟩ | ⟨x, rfl, -⟩ | ⟨x, rfl, -⟩ | ⟨x, rfl, -⟩⟩ :=
    unpack_cases h
  all_goals
    intro u hu
    cases hu

/-- The reader behind the kind byte. -/
theorem unpack_cons (checking : Checking) (kind : UInt8) (body : Bytes) :
    unpack checking (kind :: body) =
      (if kind = TreasuryOutput.kind then return treasury (← Packable.unpack checking)
      else if kind = BasicOutput.kind then return basic (← Packable.unpack checking)
      else if kind = AliasOutput.kind then return «alias» (← Packable.unpack checking)
      else if kind = FoundryOutput.kind then return foundry (← Packable.unpack checking)
      else if kind = NftOutput.kind then return nft (← Packable.unpack checking)
      else unknownKind "output" kind : Unpacker Output) body := by
  unfold unpack
  exact bind_of_ok (byte_eq_ok.2 rfl)

/-- An output of a known kind that verifies is read back from its binary form. -/
theorem reads_unpack {o : Output} (hknown : o.IsKnown) (hv : o.verify = .ok ()) :
    Reads (unpack .strict) o.pack o := by
  intro rest
  cases o with
  | treasury x =>
    have hx := (LawfulPackable.complete (a := x) hv).map treasury rest
    show unpack _ (TreasuryOutput.kind :: _) = _
    rw [unpack_cons, if_pos rfl]
    exact hx
  | basic x =>
    have hx := (LawfulPackable.complete (a := x) hv).map basic rest
    show unpack _ (BasicOutput.kind :: _) = _
    rw [unpack_cons, if_neg (by decide), if_pos rfl]
    exact hx
  | «alias» x =>
    have hx := (LawfulPackable.complete (a := x) hv).map «alias» rest
    show unpack _ (AliasOutput.kind :: _) = _
    rw [unpack_cons, if_neg (by decide), if_neg (by decide), if_pos rfl]
    exact hx
  | foundry x =>
    have hx := (LawfulPackable.complete (a := x) hv).map foundry rest
    show unpack _ (FoundryOutput.kind :: _) = _
    rw [unpack_cons, if_neg (by decide), if_neg (by decide), if_neg (by decide), if_pos rfl]
    exact hx
  | nft x =>
    have hx := (LawfulPackable.complete (a := x) hv).map nft rest
    show unpack _ (NftOutput.kind :: _) = _
    rw [unpack_cons, if_neg (by decide), if_neg (by decide), if_neg (by decide),
      if_neg (by decide), if_pos rfl]
    exact hx
  | unknown u => exact absurd rfl (hknown u)

theorem stable_unpack (checking : Checking) : Stable (unpack checking) := by
  unfold unpack
  exact .bind .byte fun _ =>
    .ite (.bind (LawfulUnpack.stable checking) fun _ => .pure _) <|
    .ite (.bind (LawfulUnpack.stable checking) fun _ => .pure _) <|
    .ite (.bind (LawfulUnpack.stable checking) fun _ => .pure _) <|
    .ite (.bind (LawfulUnpack.stable checking) fun _ => .pure _) <|
    .ite (.bind (LawfulUnpack.stable checking) fun _ => .pure _) (.throw _)

theorem cautious_unpack : Cautious (unpack .strict) (unpack .lenient) := by
  unfold unpack
  exact .bind (.refl _) fun _ =>
    .ite (.bind LawfulUnpack.cautious fun _ => .refl _) <|
    .ite (.bind LawfulUnpack.cautious fun _ => .refl _) <|
    .ite (.bind LawfulUnpack.cautious fun _ => .refl _) <|
    .ite (.bind LawfulUnpack.cautious fun _ => .refl _) <|
    .ite (.bind LawfulUnpack.cautious fun _ => .refl _) (.refl _)

/-- Opaque outputs verify and are not read by the readers of the kinds, so outputs are read lawfully
but their binary forms are canonical by way of `decode` only. -/
instance lawfulUnpack : LawfulUnpack Output where
  stable := stable_unpack
  cautious := cautious_unpack
  sound {checking input rest o} h := by
    obtain ⟨body, rfl, ⟨x, rfl, hx⟩ | ⟨x, rfl, hx⟩ | ⟨x, rfl, hx⟩ | ⟨x, rfl, hx⟩ | ⟨x, rfl, hx⟩⟩ :=
      unpack_cases h
    all_goals
      obtain ⟨rfl, hv⟩ := LawfulUnpack.sound hx
      exact ⟨rfl, hv⟩
  strict_of_verify {input rest o} h hv := by
    obtain ⟨body, rfl, ⟨x, rfl, hx⟩ | ⟨x, rfl, hx⟩ | ⟨x, rfl, hx⟩ | ⟨x, rfl, hx⟩ | ⟨x, rfl, hx⟩⟩ :=
      unpack_cases h
    all_goals
      rw [LawfulUnpack.eq_pack_append hx]
      exact reads_unpack (isKnown_of_unpack h) hv rest

/-! ## Encoding and decoding -/

theorem encode_eq_ok {o : Output} {bytes : Bytes} :
    o.encode = .ok bytes ↔ o.verify = .ok () ∧ o.pack = bytes := by
  unfold encode
  cases hv : o.verify with
  | error e => simp [bind, Except.bind]
  | ok _ => simp [bind, Except.bind, pure, Except.pure]

/-- A kind byte that is not known is the fault that is found, whatever comes behind it. -/
theorem unpack_of_not_isKnownKind {checking : Checking} {kind : UInt8} {body : Bytes}
    (h : isKnownKind kind = false) :
    unpack checking (kind :: body) = .error (.unknownKind "output" kind) := by
  simp only [isKnownKind, Bool.or_eq_false_iff, decide_eq_false_iff_not] at h
  obtain ⟨⟨⟨⟨h₂, h₃⟩, h₄⟩, h₅⟩, h₆⟩ := h
  rw [unpack_cons, if_neg h₂, if_neg h₃, if_neg h₄, if_neg h₅, if_neg h₆]
  rfl

/-- Reading an output of a known kind gives the outputs of known kinds that verify, and no others.
-/
theorem unpackKnown_eq_ok {input : Bytes} {o : Output} :
    unpackKnown input = .ok o ↔ o.IsKnown ∧ o.verify = .ok () ∧ o.pack = input := by
  have hread : unpackKnown input = .ok o ↔ unpack .strict input = .ok (o, []) :=
    LawfulUnpack.unpackExact_eq_ok_iff_unpack
  rw [hread]
  constructor
  · intro h
    obtain ⟨hpack, hv⟩ := LawfulUnpack.sound (α := Output) h
    rw [List.append_nil] at hpack
    exact ⟨isKnown_of_unpack h, hv rfl, hpack.symm⟩
  · rintro ⟨hknown, hv, rfl⟩
    have h := reads_unpack hknown hv []
    rwa [List.append_nil] at h

/-- The strict reader meets a kind in the input that is not known. -/
def MeetsUnknown (input : Bytes) : Prop :=
  ∃ what kind, unpack .strict input = .error (.unknownKind what kind)

/-- Such a fault is one of the reader: what is left behind a value is another one. -/
theorem unpackKnown_eq_unknownKind {input : Bytes} {what : String} {kind : UInt8} :
    unpackKnown input = .error (.unknownKind what kind) ↔
      unpack .strict input = .error (.unknownKind what kind) := by
  constructor
  · intro h
    cases hc : unpack .strict input with
    | error e =>
      have he := (LawfulUnpack.unpackExact_of_error (α := Output) hc).symm.trans h
      cases he
      rfl
    | ok p =>
      have hp := (LawfulUnpack.unpackExact_of_ok (α := Output) hc).symm.trans h
      split at hp <;> cases hp
  · exact LawfulUnpack.unpackExact_of_error (α := Output)

theorem not_meetsUnknown_nil : ¬ MeetsUnknown [] := by
  rintro ⟨what, kind, h⟩
  have hnil : unpack .strict [] = .error .unexpectedEnd := bind_of_error rfl
  rw [hnil] at h
  cases h

/-- An input keeps its kind byte and its body if a kind in it is not known. -/
theorem decode_of_meetsUnknown {kind : UInt8} {body : Bytes} (h : MeetsUnknown (kind :: body)) :
    decode (kind :: body) = .ok (unknown ⟨kind, .packed body⟩) := by
  obtain ⟨what, unknownKind, h⟩ := h
  unfold decode
  rw [unpackKnown_eq_unknownKind.2 h]

/-- Any other input is read as an output of a known kind. -/
theorem decode_of_not_meetsUnknown {input : Bytes} (h : ¬ MeetsUnknown input) :
    decode input = unpackKnown input := by
  unfold decode
  split
  · next what unknownKind kind body heq =>
    exact absurd ⟨what, unknownKind, unpackKnown_eq_unknownKind.1 heq⟩ h
  · rfl

/-- A body may be kept as bytes if the reader meets an unknown kind in it, its own included. -/
theorem verifyOpaque_eq_ok {kind : UInt8} {body : Bytes} :
    verifyOpaque kind body = .ok () ↔ MeetsUnknown (kind :: body) := by
  unfold verifyOpaque MeetsUnknown
  cases hk : isKnownKind kind with
  | false => simp [unpack_of_not_isKnownKind hk]
  | true =>
    rw [if_pos rfl]
    constructor
    · intro h
      split at h
      · next what unknownKind heq => exact ⟨what, unknownKind, unpackKnown_eq_unknownKind.1 heq⟩
      · cases h
    · rintro ⟨what, unknownKind, h⟩
      rw [unpackKnown_eq_unknownKind.2 h]

theorem verify_unknown_eq_ok {u : Unrecognized} : (unknown u).verify = .ok () ↔
    ∃ body, u.body = .packed body ∧ MeetsUnknown (u.kind :: body) := by
  obtain ⟨kind, fields | body⟩ := u
  · simp [verify]
  · simp [verify, verifyOpaque_eq_ok]

/-- What is decoded from an input: outputs of known kinds that span it, and the opaque output of an
input in which the reader meets an unknown kind. -/
theorem decode_eq_unknown {input : Bytes} {u : Unrecognized} :
    decode input = .ok (unknown u) ↔
      ∃ body, u.body = .packed body ∧ input = u.kind :: body ∧ MeetsUnknown input := by
  by_cases h : MeetsUnknown input
  · cases input with
    | nil => exact absurd h not_meetsUnknown_nil
    | cons kind body =>
      rw [decode_of_meetsUnknown h]
      obtain ⟨kind', body'⟩ := u
      constructor
      · intro heq
        cases heq
        exact ⟨body, rfl, rfl, h⟩
      · rintro ⟨_, rfl, heq, -⟩
        cases heq
        rfl
  · rw [decode_of_not_meetsUnknown h]
    constructor
    · intro heq
      exact absurd rfl ((unpackKnown_eq_ok.1 heq).1 u)
    · rintro ⟨_, -, -, hu⟩
      exact absurd hu h

theorem decode_eq_known {input : Bytes} {o : Output} (hknown : o.IsKnown) :
    decode input = .ok o ↔ o.verify = .ok () ∧ o.pack = input := by
  by_cases h : MeetsUnknown input
  · constructor
    · intro heq
      cases input with
      | nil => exact absurd h not_meetsUnknown_nil
      | cons kind body =>
        rw [decode_of_meetsUnknown h] at heq
        cases heq
        exact absurd rfl (hknown _)
    · rintro ⟨hv, rfl⟩
      obtain ⟨what, unknownKind, h⟩ := h
      have hread := unpackKnown_eq_ok.2 ⟨hknown, hv, rfl⟩
      rw [unpackKnown_eq_unknownKind.2 h] at hread
      cases hread
  · rw [decode_of_not_meetsUnknown h, unpackKnown_eq_ok]
    exact and_iff_right hknown

/-- An output is decoded from its binary form, if it verifies, and from nothing else. -/
theorem decode_eq_ok {input : Bytes} {o : Output} :
    decode input = .ok o ↔ o.verify = .ok () ∧ o.pack = input := by
  obtain hknown | ⟨⟨kind, body⟩, rfl⟩ := isKnown_or o
  · exact decode_eq_known hknown
  · rw [decode_eq_unknown, verify_unknown_eq_ok]
    constructor
    · rintro ⟨body, rfl, rfl, h⟩
      exact ⟨⟨body, rfl, h⟩, rfl⟩
    · rintro ⟨⟨body, rfl, h⟩, rfl⟩
      exact ⟨body, rfl, rfl, h⟩

end Output

end UtxoCodec
