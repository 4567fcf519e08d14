import UtxoCodec.NativeToken
import UtxoCodec.Proofs.Collection
import UtxoCodec.Proofs.Json.Tagged
import UtxoCodec.Proofs.Text.Decimal
import UtxoCodec.Proofs.Text.Hexadecimal
import UtxoCodec.Proofs.Text.Word256

/-!
# JSON forms of elements

Texts, numbers, identifiers, amounts, addresses and native tokens survive being sent as JSON. So do
lists of what survives, and native tokens that verify: the reader sorts them, which leaves them as
they are.
-/

namespace UtxoCodec

open Outcome Json

/-! ## Simple values -/

theorem survives_string (s : String) : Survives s := rfl

instance : LawfulWire String := ⟨fun _ _ => survives_string _⟩

theorem survives_uint8 (n : UInt8) : Survives n :=
  map_eq_ok.2 ⟨n.toNat, readNat_nat n.toNat_lt, UInt8.ofNat_toNat⟩

instance : LawfulWire UInt8 := ⟨fun _ _ => survives_uint8 _⟩

theorem survives_uint16 (n : UInt16) : Survives n :=
  map_eq_ok.2 ⟨n.toNat, readNat_nat n.toNat_lt, UInt16.ofNat_toNat⟩

instance : LawfulWire UInt16 := ⟨fun _ _ => survives_uint16 _⟩

theorem survives_uint32 (n : UInt32) : Survives n :=
  map_eq_ok.2 ⟨n.toNat, readNat_nat n.toNat_lt, UInt32.ofNat_toNat⟩

instance : LawfulWire UInt32 := ⟨fun _ _ => survives_uint32 _⟩

theorem survives_uint64 (n : UInt64) : Survives n :=
  map_eq_ok.2 ⟨n.toNat, readNat_nat n.toNat_lt, UInt64.ofNat_toNat⟩

instance : LawfulWire UInt64 := ⟨fun _ _ => survives_uint64 _⟩

theorem readBytes_ofBytes (bytes : Bytes) : ReadsBack ofBytes readBytes bytes :=
  mapError_eq_ok.2 (Hex.decode_encode bytes)

theorem readWord256_ofWord256 (n : BitVec 256) : ReadsBack ofWord256 readWord256 n :=
  mapError_eq_ok.2 (Hex.decodeNumber_encodeNumber n)

section Lists

variable {α : Type} [Wire α]

theorem survives_list {as : List α} (h : ∀ a ∈ as, Survives a) : Survives as := by
  show readArray Wire.ofJson (.array (sortedItems (as.map Wire.toJson))) = _
  rw [sortedItems_eq_map, List.map_map]
  exact mapM_map_eq_ok h

/-- What is read in a list survives, item by item. -/
theorem survives_of_readArray [LawfulWire α] {j : Json} {as : List α} (hj : j.Canonical)
    (h : readArray Wire.ofJson j = .ok as) : ∀ a ∈ as, Survives a := by
  intro a ha
  unfold readArray at h
  split at h
  · obtain ⟨item, hitem, hread⟩ := mem_of_mapM h a ha
    exact LawfulWire.survives_of_ofJson (canonicalItems_iff.1 hj item hitem) hread
  · cases h

instance [LawfulWire α] : LawfulWire (List α) :=
  ⟨fun hj h => survives_list (survives_of_readArray hj h)⟩

end Lists

/-! ## Identifiers and amounts -/

theorem decodeExactHex_encode (what : String) {size : Nat} {bytes : Bytes}
    (h : bytes.length = size) : decodeExactHex what size (Hex.encode bytes) = .ok ⟨bytes, h⟩ := by
  unfold decodeExactHex
  rw [mapError_eq_ok.2 (Hex.decode_encode bytes)]
  exact dif_pos h

namespace Identifier

variable {kind : IdKind}

theorem ofText_text (id : Identifier kind) : ofText id.text = .ok id := by
  unfold ofText text
  rw [decodeExactHex_encode _ id.length_eq]
  rfl

theorem survives (id : Identifier kind) : Survives id :=
  mapError_eq_ok.2 (ofText_text id)

instance : LawfulWire (Identifier kind) := ⟨fun _ _ => survives _⟩

end Identifier

namespace OutputId

theorem length_bytes (id : OutputId) : id.bytes.length = size := by
  unfold bytes
  rw [List.length_append, id.transactionId.length_eq, Bytes.length_littleEndian]
  rfl

theorem ofText_eq_ok {text : String} {id : OutputId} (h : ofText text = .ok id) :
    id.verify = .ok () := by
  obtain ⟨_, -, hunpack⟩ := bind_eq_ok.1 h
  exact (LawfulPackable.unpackExact_eq_ok.1 hunpack).1

/-- An output identifier that verifies is read back from its text. -/
theorem ofText_text {id : OutputId} (h : id.verify = .ok ()) : ofText id.text = .ok id := by
  unfold ofText text
  rw [decodeExactHex_encode _ id.length_bytes]
  exact LawfulPackable.unpackExact_eq_ok.2 ⟨h, rfl⟩

theorem survives {id : OutputId} (h : id.verify = .ok ()) : Survives id :=
  mapError_eq_ok.2 (ofText_text h)

instance : LawfulWire OutputId where
  survives_of_ofJson _ h := by
    obtain ⟨text, -, htext⟩ := bind_eq_ok.1 h
    exact survives (ofText_eq_ok (mapError_eq_ok.1 htext))

end OutputId

namespace Amount

theorem survives (a : Amount) : Survives a :=
  mapError_eq_ok.2 (ofText_text a)

instance : LawfulWire Amount := ⟨fun _ _ => survives _⟩

end Amount

/-! ## Addresses -/

namespace Address

theorem ofJson_eq (j : Json) :
    (Wire.ofJson j : Except JsonError Address) = Tagged.ofJson "address" j >>= ofTagged :=
  rfl

theorem writes {kind : IdKind} (name : String) (make : Identifier kind → Address)
    (id : Identifier kind) :
    (make <$> Record.required name).Writes [(name, Wire.toJson id)] (make id) :=
  .map (.required id.survives) make

theorem survives (a : Address) : Survives a := by
  cases a with
  | ed25519 hash =>
    have hw := writes "pubKeyHash" Address.ed25519 hash
    exact Tagged.survives ofJson_eq rfl hw (by decide) fun _ h => h
  | «alias» id =>
    exact Tagged.survives ofJson_eq rfl (writes "aliasId" Address.alias id) (by decide) fun _ h => h
  | nft id =>
    exact Tagged.survives ofJson_eq rfl (writes "nftId" Address.nft id) (by decide) fun _ h => h

instance : LawfulWire Address := ⟨fun _ _ => survives _⟩

end Address

/-! ## Native tokens -/

namespace NativeToken

theorem writes (t : NativeToken) :
    record.Writes [("id", Wire.toJson t.id), ("amount", Json.ofWord256 t.amount)] t :=
  .seq (.map (.required t.id.survives) _) (.present (readWord256_ofWord256 t.amount))

theorem survives (t : NativeToken) : Survives t :=
  t.writes.ofObjectOrArray (by decide)

instance : LawfulWire NativeToken := ⟨fun _ _ => survives _⟩

end NativeToken

namespace NativeTokens

theorem survives {ts : NativeTokens} (h : ts.verify = .ok ()) : Survives ts := by
  have hitems : Survives ts.items := survives_list fun t _ => t.survives
  refine bind_eq_ok.2 ⟨ts.items, hitems, ?_⟩
  exact mapError_eq_ok.2 (ofList_items h)

theorem verify_of_ofList {tokens : List NativeToken} {ts : NativeTokens}
    (h : ofList tokens = .ok ts) : ts.verify = .ok () := by
  obtain ⟨hv, rfl⟩ := check_eq_ok.1 h
  exact hv

instance : LawfulWire NativeTokens where
  survives_of_ofJson _ h := by
    obtain ⟨tokens, -, htokens⟩ := bind_eq_ok.1 h
    exact survives (verify_of_ofList (mapError_eq_ok.1 htokens))

end NativeTokens

end UtxoCodec
