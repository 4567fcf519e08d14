import UtxoCodec.Derivation
import UtxoCodec.Proofs.Packing.Element
import UtxoCodec.Proofs.Text.Hexadecimal
import UtxoCodec.Proofs.Wire.Element

/-!
# Texts of identifiers

Which texts an identifier is read from, which identifier that is, and how it is written
(`Identifier.TextForm`, `OutputId.TextForm`). An output identifier has three more forms beside its
text: its bytes, its binary form, and the call that builds it from a transaction and a position. The
text reader checks the position when it unpacks the bytes, the call on its own; that both refuse the
same positions is `OutputId.TextForm.outputIdAt_iff`.

Main statement: `identifier_texts`.
-/

namespace UtxoCodec

open Outcome

/-- The text is the prefix and the digits of that many bytes, which it denotes. -/
def Hex.Denotes (text : String) (size : Nat) (bytes : Bytes) : Prop :=
  ∃ ds, Spells text ds ∧ ds.length = 2 * size ∧ bytes = bytesOf ds

namespace Hex

variable {text : String} {size : Nat} {bytes : Bytes}

theorem Denotes.length_eq (h : Denotes text size bytes) : bytes.length = size := by
  obtain ⟨ds, -, hlen, rfl⟩ := h
  rw [length_bytesOf]
  omega

theorem Denotes.encode_eq (h : Denotes text size bytes) : encode bytes = text.toLower := by
  obtain ⟨ds, hspells, hlen, rfl⟩ := h
  exact encode_bytesOf hspells (by omega)

theorem denotes_iff_decode :
    Denotes text size bytes ↔ decode text = .ok bytes ∧ bytes.length = size := by
  constructor
  · intro h
    have hlen := h.length_eq
    obtain ⟨ds, hspells, hds, rfl⟩ := h
    exact ⟨decode_eq_ok.2 ⟨ds, hspells, by omega, rfl⟩, hlen⟩
  · rintro ⟨hdecode, hlen⟩
    obtain ⟨ds, hspells, heven, rfl⟩ := decode_eq_ok.1 hdecode
    rw [length_bytesOf] at hlen
    exact ⟨ds, hspells, by omega, rfl⟩

end Hex

theorem decodeExactHex_eq_ok {what : String} {size : Nat} {text : String}
    {b : { b : Bytes // b.length = size }} :
    decodeExactHex what size text = .ok b ↔ Hex.Denotes text size b.val := by
  unfold decodeExactHex
  rw [bind_eq_ok, Hex.denotes_iff_decode]
  constructor
  · rintro ⟨bytes, hdecode, hlen⟩
    split at hlen
    · next hsize =>
      cases hlen
      exact ⟨mapError_eq_ok.1 hdecode, hsize⟩
    · cases hlen
  · rintro ⟨hdecode, hlen⟩
    exact ⟨b.val, mapError_eq_ok.2 hdecode, dif_pos hlen⟩

/-! ## Identifiers -/

namespace Identifier

variable {kind : IdKind}

theorem ofText_eq_ok {text : String} {id : Identifier kind} :
    ofText text = .ok id ↔ Hex.Denotes text kind.size id.bytes := by
  unfold ofText
  rw [bind_eq_ok]
  constructor
  · rintro ⟨b, hb, hid⟩
    cases hid
    exact decodeExactHex_eq_ok.1 hb
  · intro h
    exact ⟨⟨id.bytes, id.length_eq⟩, decodeExactHex_eq_ok.2 h, rfl⟩

/-- The text form of the identifiers of a kind. -/
structure TextForm (kind : IdKind) : Prop where
  /-- A text is read as the identifier of the bytes that its digits stand for. -/
  ofText_iff : ∀ (text : String) (id : Identifier kind),
    ofText text = .ok id ↔
      ∃ ds, Hex.Spells text ds ∧ ds.length = 2 * kind.size ∧ id.bytes = Hex.bytesOf ds
  /-- It is read at all if it is the prefix and twice as many digits as there are bytes. -/
  accepts_iff : ∀ text : String,
    (∃ id : Identifier kind, ofText text = .ok id) ↔
      ∃ ds, Hex.Spells text ds ∧ ds.length = 2 * kind.size
  /-- It is written in lower case. -/
  text_eq_toLower : ∀ (text : String) (id : Identifier kind),
    ofText text = .ok id → id.text = text.toLower
  /-- The identifier is read back from its own text. -/
  reads_text : ∀ id : Identifier kind, ofText id.text = .ok id

theorem textForm (kind : IdKind) : TextForm kind where
  ofText_iff _ _ := ofText_eq_ok
  accepts_iff text := by
    constructor
    · rintro ⟨id, h⟩
      obtain ⟨ds, hspells, hlen, -⟩ := ofText_eq_ok.1 h
      exact ⟨ds, hspells, hlen⟩
    · rintro ⟨ds, hspells, hlen⟩
      have hdenotes : Hex.Denotes text kind.size (Hex.bytesOf ds) := ⟨ds, hspells, hlen, rfl⟩
      exact ⟨⟨Hex.bytesOf ds, hdenotes.length_eq⟩, ofText_eq_ok.2 hdenotes⟩
  text_eq_toLower _ _ h := (ofText_eq_ok.1 h).encode_eq
  reads_text := ofText_text

end Identifier

/-! ## Output identifiers -/

namespace OutputId

theorem verify_eq_ok_iff {id : OutputId} : id.verify = .ok () ↔ id.index.toNat ≤ 127 := by
  unfold verify greatestIndex
  split
  · next h => exact iff_of_true rfl h
  · next h => exact iff_of_false (fun hv => nomatch hv) h

theorem value_drop_bytes (id : OutputId) : Bytes.value (id.bytes.drop 32) = id.index.toNat := by
  have hlen : id.transactionId.bytes.length = 32 := id.transactionId.length_eq
  have hlt : id.index.toNat < Bytes.capacity 2 := id.index.toNat_lt
  unfold bytes
  rw [List.drop_left' hlen, Bytes.value_littleEndian, Nat.mod_eq_of_lt hlt]

/-- Any 34 bytes are those of an output identifier, though its position may be out of range. -/
theorem exists_bytes_eq {b : Bytes} (h : b.length = size) : ∃ id : OutputId, id.bytes = b := by
  have htake : (b.take 32).length = 32 := by
    rw [List.length_take, h]
    rfl
  have hdrop : (b.drop 32).length = 2 := by
    rw [List.length_drop, h]
    rfl
  have hlt : Bytes.value (b.drop 32) < 65536 := by
    have hvalue := Bytes.value_lt (b.drop 32)
    rwa [hdrop] at hvalue
  refine ⟨⟨⟨b.take 32, htake⟩, UInt16.ofNat (Bytes.value (b.drop 32))⟩, ?_⟩
  have hindex : Bytes.littleEndian 2 (Bytes.value (b.drop 32)) = b.drop 32 := by
    have hwrite := Bytes.littleEndian_value (b.drop 32)
    rwa [hdrop] at hwrite
  show b.take 32 ++ Bytes.littleEndian 2 (UInt16.ofNat (Bytes.value (b.drop 32))).toNat = b
  rw [UInt16.toNat_ofNat_of_lt' hlt, hindex, List.take_append_drop]

theorem ofText_eq_ok_iff {text : String} {id : OutputId} :
    ofText text = .ok id ↔ Hex.Denotes text size id.bytes ∧ id.index.toNat ≤ 127 := by
  unfold ofText
  rw [bind_eq_ok, ← verify_eq_ok_iff]
  constructor
  · rintro ⟨b, hb, hunpack⟩
    obtain ⟨hv, hpack⟩ := LawfulPackable.unpackExact_eq_ok.1 hunpack
    have hbytes : id.bytes = b.val := hpack
    rw [hbytes]
    exact ⟨decodeExactHex_eq_ok.1 hb, hv⟩
  · rintro ⟨hdenotes, hv⟩
    have hb : decodeExactHex "output id" size text = .ok ⟨id.bytes, id.length_bytes⟩ :=
      decodeExactHex_eq_ok.2 hdenotes
    exact ⟨_, hb, LawfulPackable.unpackExact_eq_ok.2 ⟨hv, rfl⟩⟩

theorem ofText_text_iff {id : OutputId} : ofText id.text = .ok id ↔ id.index.toNat ≤ 127 := by
  rw [← verify_eq_ok_iff]
  exact ⟨ofText_eq_ok, ofText_text⟩

theorem bytes_inj {id id' : OutputId} (h : id.bytes = id'.bytes) : id = id' := by
  have hlen : id.transactionId.bytes.length = id'.transactionId.bytes.length :=
    id.transactionId.length_eq.trans id'.transactionId.length_eq.symm
  have hindex : id.index.toNat = id'.index.toNat := by
    rw [← value_drop_bytes, ← value_drop_bytes, h]
  cases id with | mk t n =>
  cases id' with | mk t' n' =>
  obtain ⟨ht, -⟩ := List.append_inj h hlen
  cases t with | mk bytes _ =>
  cases t' with | mk bytes' _ =>
  cases ht
  cases UInt16.toNat_inj.1 hindex
  rfl

theorem outputIdAt_eq_ok {t : TransactionId} {n : UInt16} {id : OutputId} :
    outputIdAt t n = .ok id ↔ n.toNat ≤ 127 ∧ id = ⟨t, n⟩ := by
  unfold outputIdAt ofIndex
  rw [mapError_eq_ok, check_eq_ok, verify_eq_ok_iff]
  exact and_congr_right fun _ => eq_comm

/-- The text of output identifiers and its agreement with their other forms. -/
structure TextForm : Prop where
  /-- A text is read as the identifier of the bytes that its digits stand for, if their last two
  are at most 127. -/
  ofText_iff : ∀ (text : String) (id : OutputId),
    ofText text = .ok id ↔
      ∃ ds, Hex.Spells text ds ∧ ds.length = 68 ∧
        Bytes.value ((Hex.bytesOf ds).drop 32) ≤ 127 ∧ id.bytes = Hex.bytesOf ds
  /-- It is read at all if it is the prefix and 68 digits with such an end. -/
  accepts_iff : ∀ text : String,
    (∃ id, ofText text = .ok id) ↔
      ∃ ds, Hex.Spells text ds ∧ ds.length = 68 ∧ Bytes.value ((Hex.bytesOf ds).drop 32) ≤ 127
  /-- It is written in lower case. -/
  text_eq_toLower : ∀ (text : String) (id : OutputId),
    ofText text = .ok id → id.text = text.toLower
  /-- An identifier with a position in range is read back from its own text. -/
  reads_text : ∀ id : OutputId, ofText id.text = .ok id ↔ id.index.toNat ≤ 127
  text_eq_encode : ∀ id : OutputId, id.text = Hex.encode id.bytes
  bytes_eq_pack : ∀ id : OutputId, id.bytes = pack id
  /-- An identifier with a position in range is unpacked from its bytes. -/
  unpacks_bytes : ∀ id : OutputId, unpackExact id.bytes = .ok id ↔ id.index.toNat ≤ 127
  /-- The call that builds an identifier gives the one that is read from its text. -/
  outputIdAt_iff : ∀ (t : TransactionId) (n : UInt16) (id : OutputId),
    outputIdAt t n = .ok id ↔ ofText (OutputId.text ⟨t, n⟩) = .ok id

theorem textForm : TextForm where
  ofText_iff text id := by
    rw [ofText_eq_ok_iff, ← value_drop_bytes]
    constructor
    · rintro ⟨⟨ds, hspells, hlen, hbytes⟩, hindex⟩
      rw [hbytes] at hindex
      exact ⟨ds, hspells, hlen, hindex, hbytes⟩
    · rintro ⟨ds, hspells, hlen, hindex, hbytes⟩
      rw [← hbytes] at hindex
      exact ⟨⟨ds, hspells, hlen, hbytes⟩, hindex⟩
  accepts_iff text := by
    constructor
    · rintro ⟨id, h⟩
      obtain ⟨⟨ds, hspells, hlen, hbytes⟩, hindex⟩ := ofText_eq_ok_iff.1 h
      rw [← value_drop_bytes, hbytes] at hindex
      exact ⟨ds, hspells, hlen, hindex⟩
    · rintro ⟨ds, hspells, hlen, hindex⟩
      have hdenotes : Hex.Denotes text size (Hex.bytesOf ds) := ⟨ds, hspells, hlen, rfl⟩
      obtain ⟨id, hid⟩ := exists_bytes_eq hdenotes.length_eq
      rw [← hid, value_drop_bytes] at hindex
      rw [← hid] at hdenotes
      exact ⟨id, ofText_eq_ok_iff.2 ⟨hdenotes, hindex⟩⟩
  text_eq_toLower _ _ h := (ofText_eq_ok_iff.1 h).1.encode_eq
  reads_text _ := ofText_text_iff
  text_eq_encode _ := rfl
  bytes_eq_pack _ := rfl
  unpacks_bytes id := by
    rw [LawfulPackable.unpackExact_eq_ok, ← verify_eq_ok_iff]
    exact and_iff_left rfl
  outputIdAt_iff t n id := by
    rw [outputIdAt_eq_ok]
    constructor
    · rintro ⟨hn, rfl⟩
      exact ofText_text_iff.2 hn
    · intro h
      obtain ⟨hdenotes, hindex⟩ := ofText_eq_ok_iff.1 h
      obtain ⟨hdecode, -⟩ := Hex.denotes_iff_decode.1 hdenotes
      have hread : Hex.decode (OutputId.text ⟨t, n⟩) = .ok (OutputId.bytes ⟨t, n⟩) :=
        Hex.decode_encode _
      rw [hread] at hdecode
      obtain rfl : (⟨t, n⟩ : OutputId) = id := bytes_inj (Except.ok.inj hdecode)
      exact ⟨hindex, rfl⟩

end OutputId

/-- The texts of identifiers of every kind and of output identifiers. -/
theorem identifier_texts : (∀ kind, Identifier.TextForm kind) ∧ OutputId.TextForm :=
  ⟨Identifier.textForm, OutputId.textForm⟩

end UtxoCodec
