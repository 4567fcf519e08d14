import UtxoCodec.Proofs.Packing.Fault
import UtxoCodec.Proofs.Wire.Output

/-!
# Bodies kept as bytes

Three paths decide whether an output may be kept as a kind and bytes: the decoder, which falls back
to it, the JSON reader, and the check of a finished value. They agree, and what they accept is never
an input that is read as an output of a known kind, or that is refused by that reading for another
reason than an unknown kind (`Output.ReadAsKnown`). Main statement:
`Output.kept_bodies_judged_alike`.
-/

namespace UtxoCodec.Output

open Outcome Json

/-- How an input is read that holds no unknown kind: as an output that spans it, or it is cut, goes
on behind an output, or breaks a rule. -/
inductive ReadAsKnown (input : Bytes) : Prop where
  | whole (o : Output) (known : o.IsKnown) (decoded : decode input = .ok o)
  | cut (decoded : decode input = .error .unexpectedEnd)
  | extended (count : Nat) (some_left : 0 < count)
      (decoded : decode input = .error (.trailingBytes count))
  | broken (rule : EncodingError) (decoded : decode input = .error (.invalid rule))

theorem readAsKnown_of_not_meetsUnknown {input : Bytes} (h : ¬ MeetsUnknown input) :
    ReadAsKnown input := by
  cases hd : decode input with
  | ok o =>
    obtain hknown | ⟨u, rfl⟩ := isKnown_or o
    · exact .whole o hknown hd
    · obtain ⟨_, -, -, hmeets⟩ := decode_eq_unknown.1 hd
      exact absurd hmeets h
  | error e =>
    rcases decode_fault hd with rfl | ⟨count, hcount, rfl⟩ | ⟨rule, rfl⟩
    · exact .cut hd
    · exact .extended count hcount hd
    · exact .broken rule hd

/-- The check of a body has one error only, and a body of an unknown kind passes. -/
theorem verifyOpaque_eq_error {kind : UInt8} {body : Bytes} (h : ¬ MeetsUnknown (kind :: body)) :
    isKnownKind kind = true ∧ verifyOpaque kind body = .error (.invalidOpaqueBody kind) := by
  have hknown : isKnownKind kind = true := by
    cases hk : isKnownKind kind with
    | true => rfl
    | false => exact absurd ⟨"output", kind, unpack_of_not_isKnownKind hk⟩ h
  refine ⟨hknown, ?_⟩
  unfold verifyOpaque
  rw [if_pos hknown]
  split
  · next what unknownKind heq =>
    exact absurd ⟨what, unknownKind, unpackKnown_eq_unknownKind.1 heq⟩ h
  · rfl

theorem fromWire_eq (j : Json) :
    (fromWire j : Except JsonError Output) = Tagged.ofJson "output" j >>= ofTagged :=
  rfl

/-- The JSON reader checks a body as the check of the finished value does, whichever text spells it.
-/
theorem fromWire_kept {kind : UInt8} {body : Bytes} {text : String}
    (h : Hex.decode text = .ok body) :
    (fromWire (object [("opaque", string text), ("type", nat kind.toNat)]) :
        Except JsonError Output) =
      ((verifyOpaque kind body).mapError .encoding).map fun _ => unknown ⟨kind, .packed body⟩ := by
  have hkind : (0 : Int) ≤ kind.toNat ∧ (kind.toNat : Int) < UInt64.size :=
    ⟨Int.natCast_nonneg _, Int.ofNat_lt.2 (Nat.lt_trans kind.toNat_lt (by decide))⟩
  have hbyte : (kind.toNat : Int) < UInt8.size := Int.ofNat_lt.2 kind.toNat_lt
  have htype : find? [("opaque", string text), ("type", nat kind.toNat)] "type" =
      some (nat kind.toNat) := by
    rw [find?_cons, if_neg (by decide), find?_cons, if_pos rfl]
  have htagged :
      Tagged.ofJson "output" (object [("opaque", string text), ("type", nat kind.toNat)]) =
        .ok ⟨kind, [("opaque", string text)]⟩ := by
    unfold Tagged.ofJson
    dsimp only
    rw [htype]
    dsimp only [nat]
    rw [if_pos hkind, if_pos hbyte, Int.toNat_natCast, UInt8.ofNat_toNat]
    rfl
  have hread : ofTagged ⟨kind, [("opaque", string text)]⟩ = ofOpaque kind (string text) [] := rfl
  rw [fromWire_eq, htagged]
  show ofTagged ⟨kind, [("opaque", string text)]⟩ = _
  rw [hread]
  unfold ofOpaque
  dsimp only
  rw [h]
  show (do (verifyOpaque kind body).mapError JsonError.encoding; return _) = _
  cases verifyOpaque kind body with
  | error e => rfl
  | ok _ => rfl

/-- A body is kept by the decoder, read from JSON and verified under one and the same condition.
Where it holds, all three agree on the value and its encoding is the input. Where it does not, the
kind is known and the body is refused throughout, whether the input is an output, a cut one, one
with bytes behind it or an invalid one. -/
theorem kept_bodies_judged_alike (kind : UInt8) (body : Bytes) :
    let input := kind :: body
    let kept := unknown ⟨kind, .packed body⟩
    let json := object [("opaque", ofBytes body), ("type", nat kind.toNat)]
    ((∃ u, decode input = .ok (unknown u)) ↔ kept.verify = .ok ()) ∧
    ((∃ o : Output, fromWire json = .ok o) ↔ kept.verify = .ok ()) ∧
    (kept.verify = .ok () →
      decode input = .ok kept ∧ fromWire json = .ok kept ∧ kept.encode = .ok input) ∧
    (kept.verify ≠ .ok () →
      isKnownKind kind = true ∧
      (fromWire json : Except JsonError Output) = .error (.encoding (.invalidOpaqueBody kind)) ∧
      kept.verify = .error (.invalidOpaqueBody kind) ∧
      kept.encode = .error (.invalidOpaqueBody kind) ∧
      ReadAsKnown input) := by
  intro input kept json
  have hverify : kept.verify = .ok () ↔ MeetsUnknown input := verifyOpaque_eq_ok
  have hjson : (fromWire json : Except JsonError Output) =
      ((verifyOpaque kind body).mapError .encoding).map fun _ => kept :=
    fromWire_kept (Hex.decode_encode body)
  refine ⟨?_, ?_, fun hv => ?_, fun hv => ?_⟩
  · rw [hverify]
    constructor
    · rintro ⟨u, hu⟩
      obtain ⟨_, -, -, hmeets⟩ := decode_eq_unknown.1 hu
      exact hmeets
    · intro hmeets
      exact ⟨_, decode_of_meetsUnknown hmeets⟩
  · rw [hjson]
    constructor
    · rintro ⟨o, ho⟩
      obtain ⟨_, hchecked, -⟩ := map_eq_ok.1 ho
      exact mapError_eq_ok.1 hchecked
    · intro hv
      exact ⟨kept, map_eq_ok.2 ⟨(), mapError_eq_ok.2 hv, rfl⟩⟩
  · refine ⟨decode_of_meetsUnknown (hverify.1 hv), ?_, encode_eq_ok.2 ⟨hv, rfl⟩⟩
    rw [hjson]
    exact map_eq_ok.2 ⟨(), mapError_eq_ok.2 hv, rfl⟩
  · have hmeets : ¬ MeetsUnknown input := fun hmeets => hv (hverify.2 hmeets)
    obtain ⟨hknown, herror⟩ := verifyOpaque_eq_error hmeets
    have hkept : kept.verify = .error (.invalidOpaqueBody kind) := herror
    refine ⟨hknown, ?_, hkept, ?_, readAsKnown_of_not_meetsUnknown hmeets⟩
    · rw [hjson, herror]
      rfl
    · unfold encode
      rw [hkept]
      rfl

/-- A treasury output is refused as an opaque body, and a body of kind seven is kept. -/
theorem kept_bodies_judged_alike_at_known_and_unknown_kind :
    (unknown ⟨2, .packed [1, 0, 0, 0, 0, 0, 0, 0]⟩).encode = .error (.invalidOpaqueBody 2) ∧
      decode [7, 1] = .ok (unknown ⟨7, .packed [1]⟩) := by
  have hreadable : (unknown ⟨2, .packed [1, 0, 0, 0, 0, 0, 0, 0]⟩).verify ≠ .ok () := by
    have h : (unknown ⟨2, .packed [1, 0, 0, 0, 0, 0, 0, 0]⟩).verify =
        .error (.invalidOpaqueBody 2) := by rfl
    rw [h]
    exact fun heq => by cases heq
  have hunknown : (unknown ⟨7, .packed [1]⟩).verify = .ok () := by rfl
  obtain ⟨-, -, -, hrefused⟩ := kept_bodies_judged_alike 2 [1, 0, 0, 0, 0, 0, 0, 0]
  obtain ⟨-, -, hkept, -⟩ := kept_bodies_judged_alike 7 [1]
  exact ⟨(hrefused hreadable).2.2.2.1, (hkept hunknown).1⟩

end UtxoCodec.Output
