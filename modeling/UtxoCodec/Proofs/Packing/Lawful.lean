import UtxoCodec.Proofs.Packing.Reader

/-!
# Lawful binary forms

`LawfulUnpack` collects, for a type at a time, what ties reading to checking. The readers are
stable, the strict one is cautious, whatever is read was packed from the value read, and the
strict reader refuses nothing but values that do not verify. `LawfulPackable` adds that every
value that verifies is read back from its binary form. Main statements: `unpack_strict_eq_ok` says
that strict reading is lenient reading followed by the check, `unpackExact_eq_ok` which inputs a
value is unpacked from.
-/

namespace UtxoCodec

/-- A type whose values are read from their binary forms only. -/
class LawfulUnpack (α : Type) [Packable α] : Prop where
  stable : ∀ checking, Unpacker.Stable (unpack checking : Unpacker α)
  cautious : Unpacker.Cautious (unpack .strict : Unpacker α) (unpack .lenient)
  /-- A reading consumes the binary form of its value. A strict one checks the value. -/
  sound : ∀ {checking input rest} {a : α}, unpack checking input = .ok (a, rest) →
    input = pack a ++ rest ∧ (checking = .strict → verify a = .ok ())
  /-- The strict reader refuses no value that verifies. -/
  strict_of_verify : ∀ {input rest} {a : α}, unpack .lenient input = .ok (a, rest) →
    verify a = .ok () → unpack .strict input = .ok (a, rest)

/-- A type whose binary form is canonical. -/
class LawfulPackable (α : Type) [Packable α] : Prop extends LawfulUnpack α where
  /-- The binary form of a value that verifies reads as the value. -/
  complete : ∀ {a : α}, verify a = .ok () → Unpacker.Reads (unpack .strict) (pack a) a
  strict_of_verify h hv := (sound h).1 ▸ complete hv _

namespace LawfulUnpack

variable {α : Type} [Packable α] [LawfulUnpack α] {checking : Checking} {input rest : Bytes} {a : α}

theorem eq_pack_append (h : unpack checking input = .ok (a, rest)) : input = pack a ++ rest :=
  (sound h).1

theorem verify_of_unpack (h : unpack .strict input = .ok (a, rest)) : verify a = .ok () :=
  (sound h).2 rfl

/-- A strict reading that succeeds is a lenient one too. -/
theorem lenient_of_strict (h : unpack .strict input = .ok (a, rest)) :
    unpack .lenient input = .ok (a, rest) := by
  obtain heq | ⟨e, he⟩ := cautious (α := α) input
  · rw [← heq, h]
  · rw [he] at h
    cases h

/-- Strict reading is lenient reading of a value that verifies. -/
theorem unpack_strict_eq_ok : unpack .strict input = .ok (a, rest) ↔
    unpack .lenient input = .ok (a, rest) ∧ verify a = .ok () := by
  constructor
  · intro h
    exact ⟨lenient_of_strict h, verify_of_unpack h⟩
  · rintro ⟨h, hv⟩
    exact strict_of_verify h hv

/-- A value that is read leniently and does not verify is refused by the strict reader. -/
theorem unpack_strict_eq_invalid {e : EncodingError} (h : unpack .lenient input = .ok (a, rest))
    (hv : verify a = .error e) :
    ∃ e', (unpack .strict : Unpacker α) input = .error (.invalid e') := by
  obtain heq | he := cautious (α := α) input
  · have hs : unpack .strict input = .ok (a, rest) := heq.trans h
    rw [verify_of_unpack hs] at hv
    cases hv
  · exact he

/-! ## Inputs that a value spans -/

/-- A value is unpacked if nothing is left behind it. What is left is counted exactly. -/
theorem unpackExact_of_ok (h : unpack .strict input = .ok (a, rest)) :
    unpackExact input = if rest = [] then .ok a else .error (.trailingBytes rest.length) := by
  have hlen : input.length - packedLength a = rest.length := by
    rw [eq_pack_append h, List.length_append]
    exact Nat.add_sub_cancel_left ..
  unfold unpackExact Unpacker.exactly
  show Except.bind (unpack .strict input) _ = _
  rw [h]
  simp only [Except.bind, hlen]
  cases rest <;> rfl

omit [LawfulUnpack α] in
theorem unpackExact_of_error {e : DecodingError}
    (h : (unpack .strict : Unpacker α) input = .error e) :
    unpackExact (α := α) input = .error e := by
  show Except.bind ((unpack .strict : Unpacker α) input) _ = _
  rw [h]
  rfl

/-- What is unpacked from an input is read from it strictly, with nothing left behind. -/
theorem unpackExact_eq_ok_iff_unpack :
    unpackExact input = .ok a ↔ unpack .strict input = .ok (a, []) := by
  cases hc : (unpack .strict : Unpacker α) input with
  | error e => simp [unpackExact_of_error hc]
  | ok p =>
    obtain ⟨b, rest⟩ := p
    rw [unpackExact_of_ok hc]
    cases rest <;> simp

end LawfulUnpack

namespace LawfulPackable

variable {α : Type} [Packable α] [LawfulPackable α] {input : Bytes} {a : α}

/-- Whichever way it is read, a value that verifies comes back from in front of anything. -/
theorem unpack_pack (checking : Checking) (hv : verify a = .ok ()) (rest : Bytes) :
    unpack checking (pack a ++ rest) = .ok (a, rest) := by
  have hstrict : unpack .strict (pack a ++ rest) = .ok (a, rest) := complete hv rest
  cases checking with
  | strict => exact hstrict
  | lenient => exact LawfulUnpack.lenient_of_strict hstrict

/-- A value is unpacked from its binary form, if it verifies, and from nothing else. -/
theorem unpackExact_eq_ok : unpackExact input = .ok a ↔ verify a = .ok () ∧ pack a = input := by
  rw [LawfulUnpack.unpackExact_eq_ok_iff_unpack]
  constructor
  · intro h
    have hpack := LawfulUnpack.eq_pack_append h
    rw [List.append_nil] at hpack
    exact ⟨LawfulUnpack.verify_of_unpack h, hpack.symm⟩
  · rintro ⟨hv, rfl⟩
    have h := complete hv []
    rwa [List.append_nil] at h

end LawfulPackable

/-! ## Lists and byte strings -/

namespace Unpacker

variable {α : Type}

theorem Stable.many {item : Unpacker α} (h : Stable item) :
    ∀ count, Stable (Unpacker.many item count)
  | 0 => .pure _
  | count + 1 => .bind h fun _ => .bind (.many h count) fun _ => .pure _

theorem Cautious.many {item item' : Unpacker α} (h : Cautious item item') :
    ∀ count, Cautious (Unpacker.many item count) (Unpacker.many item' count)
  | 0 => .refl _
  | count + 1 => .bind h fun _ => .bind (.many h count) fun _ => .refl _

theorem Stable.counted {item : Unpacker α} (h : Stable item) (checking : Checking) (what : String)
    (greatest : Nat) : Stable (Unpacker.counted checking what greatest item) :=
  .bind (.number 1) fun _ => .bind (.require ..) fun _ => .many h _

theorem Cautious.counted {item item' : Unpacker α} (h : Cautious item item') (what : String)
    (greatest : Nat) :
    Cautious (Unpacker.counted .strict what greatest item)
      (Unpacker.counted .lenient what greatest item') :=
  .bind (.refl _) fun _ => .bind (.require _) fun _ => .many h _

theorem Stable.sized (checking : Checking) (what : String) (width least greatest : Nat) :
    Stable (Unpacker.sized checking what width least greatest) :=
  .bind (.number width) fun _ => .bind (.require ..) fun _ => .bind (.take _) fun _ => .pure _

theorem Cautious.sized (what : String) (width least greatest : Nat) :
    Cautious (Unpacker.sized .strict what width least greatest)
      (Unpacker.sized .lenient what width least greatest) :=
  .bind (.refl _) fun _ => .bind (.require _) fun _ => .refl _

theorem sized_sound {checking : Checking} {what : String} {width least greatest : Nat}
    {input bytes rest : Bytes}
    (h : sized checking what width least greatest input = .ok (bytes, rest)) :
    input = packSized width bytes ++ rest ∧
      (checking = .strict → least ≤ bytes.length ∧ bytes.length ≤ greatest) := by
  obtain ⟨length, mid, hlength, h⟩ := bind_eq_ok.1 h
  obtain ⟨_, mid', hreq, h⟩ := bind_eq_ok.1 h
  obtain ⟨⟨b, hb⟩, mid'', htake, h⟩ := bind_eq_ok.1 h
  obtain ⟨rfl, rfl⟩ := pure_eq_ok.1 h
  obtain ⟨hbounds, rfl⟩ := require_eq_ok.1 hreq
  obtain ⟨-, rfl⟩ := number_eq_ok.1 hlength
  obtain rfl := take_eq_ok.1 htake
  subst hb
  exact ⟨by rw [packSized, List.append_assoc], fun hc => ite_eq_ok.1 (hbounds hc)⟩

theorem Reads.sized {what : String} {width least greatest : Nat} {bytes : Bytes}
    (hcap : greatest < Bytes.capacity width) (hleast : least ≤ bytes.length)
    (hgreatest : bytes.length ≤ greatest) :
    Reads (Unpacker.sized .strict what width least greatest) (packSized width bytes) bytes :=
  .bind (.number (Nat.lt_of_le_of_lt hgreatest hcap))
    (.bind (.require (ite_eq_ok.2 ⟨hleast, hgreatest⟩)) (.map (.take bytes) _))

section Items

variable [Packable α] [LawfulPackable α] {checking : Checking} {what : String} {greatest : Nat}

theorem many_sound : ∀ {count : Nat} {input rest : Bytes} {items : List α},
    many (unpack checking) count input = .ok (items, rest) →
      items.length = count ∧ input = items.flatMap pack ++ rest ∧
        (checking = .strict → ∀ a ∈ items, verify a = .ok ())
  | 0, input, rest, items, h => by
    obtain ⟨rfl, rfl⟩ := pure_eq_ok.1 h
    exact ⟨rfl, rfl, by simp⟩
  | count + 1, input, rest, items, h => by
    obtain ⟨a, mid, ha, h⟩ := bind_eq_ok.1 h
    obtain ⟨tail, mid', htail, h⟩ := bind_eq_ok.1 h
    obtain ⟨rfl, rfl⟩ := pure_eq_ok.1 h
    obtain ⟨rfl, hv⟩ := LawfulUnpack.sound ha
    obtain ⟨hlen, rfl, hvs⟩ := many_sound htail
    refine ⟨by simp [hlen], by simp, fun hc => ?_⟩
    simpa using ⟨hv hc, hvs hc⟩

theorem Reads.many : ∀ {items : List α}, (∀ a ∈ items, verify a = .ok ()) →
    Reads (Unpacker.many (unpack .strict) items.length) (items.flatMap pack) items
  | [], _ => .pure []
  | a :: _, h =>
    .bind (LawfulPackable.complete (h a List.mem_cons_self))
      (.map (.many fun b hb => h b (List.mem_cons_of_mem a hb)) _)

theorem counted_sound {input rest : Bytes} {items : List α}
    (h : counted checking what greatest (unpack checking) input = .ok (items, rest)) :
    input = packCounted pack items ++ rest ∧
      (checking = .strict → items.length ≤ greatest ∧ ∀ a ∈ items, verify a = .ok ()) := by
  obtain ⟨count, mid, hcount, h⟩ := bind_eq_ok.1 h
  obtain ⟨u, mid', hreq, h⟩ := bind_eq_ok.1 h
  obtain ⟨-, rfl⟩ := number_eq_ok.1 hcount
  obtain ⟨hbound, rfl⟩ := require_eq_ok.1 hreq
  obtain ⟨rfl, rfl, hv⟩ := many_sound h
  exact ⟨by rw [packCounted, List.append_assoc], fun hc => ⟨ite_eq_ok.1 (hbound hc), hv hc⟩⟩

theorem Reads.counted {items : List α} (hlen : items.length ≤ greatest)
    (hcap : greatest < Bytes.capacity 1) (hv : ∀ a ∈ items, verify a = .ok ()) :
    Reads (Unpacker.counted .strict what greatest (unpack .strict)) (packCounted pack items)
      items :=
  .bind (.number (Nat.lt_of_le_of_lt hlen hcap))
    (.bind (.require (ite_eq_ok.2 hlen)) (.many hv))

end Items

end Unpacker

/-- A collection whose reader reads counted items and checks the whole behind them. -/
theorem LawfulPackable.ofCounted {α β : Type} [Packable α] [LawfulPackable α] [Packable β]
    {what : String} {greatest : Nat} {make : List α → β} {items : β → List α}
    (check : β → Except EncodingError Unit)
    (hunpack : ∀ checking, unpack checking = do
      let items ← Unpacker.counted checking what greatest (unpack checking)
      checking.require (check (make items))
      return make items)
    (hpack : ∀ b, pack b = packCounted pack (items b)) (hcap : greatest < Bytes.capacity 1)
    (hmake : ∀ b, make (items b) = b) (hitems : ∀ as, items (make as) = as)
    (hverify : ∀ b, verify b = .ok () ↔
      (items b).length ≤ greatest ∧ (∀ a ∈ items b, verify a = .ok ()) ∧ check b = .ok ()) :
    LawfulPackable β where
  stable checking := by
    rw [hunpack]
    exact .bind (.counted (LawfulUnpack.stable checking) ..) fun _ =>
      .bind (.require ..) fun _ => .pure _
  cautious := by
    rw [hunpack, hunpack]
    exact .bind (.counted LawfulUnpack.cautious _ _) fun _ => .bind (.require _) fun _ => .refl _
  sound {checking input rest b} h := by
    rw [hunpack] at h
    obtain ⟨as, mid, has, h⟩ := Unpacker.bind_eq_ok.1 h
    obtain ⟨_, mid', hreq, h⟩ := Unpacker.bind_eq_ok.1 h
    obtain ⟨rfl, rfl⟩ := Unpacker.pure_eq_ok.1 h
    obtain ⟨hcheck, rfl⟩ := Unpacker.require_eq_ok.1 hreq
    obtain ⟨hinput, hall⟩ := Unpacker.counted_sound has
    rw [hpack, hverify, hitems]
    exact ⟨hinput, fun hc => ⟨(hall hc).1, (hall hc).2, hcheck hc⟩⟩
  complete {b} hv := by
    obtain ⟨hlen, hall, hcheck⟩ := (hverify b).1 hv
    have hmade : check (make (items b)) = .ok () := by
      rw [hmake]
      exact hcheck
    have h : Unpacker.Reads (Unpacker.counted .strict what greatest (unpack .strict) >>= fun as =>
        Checking.strict.require (check (make as)) >>= fun _ => pure (make as))
        (packCounted pack (items b)) (make (items b)) :=
      .checked (.counted hlen hcap hall) hmade make
    rw [hunpack, hpack]
    rwa [hmake] at h

end UtxoCodec
