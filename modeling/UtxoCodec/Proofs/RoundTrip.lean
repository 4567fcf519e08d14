import UtxoCodec.Proofs.Draft.Finish
import UtxoCodec.Proofs.Wire.Message

/-!
# JSON round trips

Whatever is read from JSON is written so that it is read again as it was, and so is every output
that comes from bytes or from a draft. Main statement: `wire_round_trip`. Values are canonical, as
all those of JSON texts are (`Json.canonical_of_parse`): the fields of an unrecognized element are
kept in the order in which they come.
-/

namespace UtxoCodec

/-- What is read from JSON and written again is read as it was. -/
def WireRoundTrip (α : Type) [Wire α] : Prop :=
  ∀ (j : Json) (a : α), j.Canonical → fromWire j = .ok a → fromWire (toWire a) = .ok a

theorem LawfulWire.roundTrip (α : Type) [Wire α] [LawfulWire α] : WireRoundTrip α :=
  fun _ _ hj h => survives_of_ofJson hj h

namespace Output

theorem fromWire_toWire_of_decode {bytes : Bytes} {o : Output} (h : decode bytes = .ok o) :
    fromWire (toWire o) = .ok o :=
  survives_of_verify (decode_eq_ok.1 h).1

theorem fromWire_toWire_of_finish {d : Draft} {p : ProtocolParameters} {o : Output}
    (h : d.finish p = .ok o) : fromWire (toWire o) = .ok o :=
  survives_of_verify (Draft.verify_of_finish h)

/-- Bytes that are decoded, sent as JSON, read back and encoded are the original bytes. -/
theorem encode_fromWire_toWire {bytes : Bytes} {o : Output} (h : decode bytes = .ok o) :
    ∃ o' : Output, fromWire (toWire o) = .ok o' ∧ o'.encode = .ok bytes :=
  ⟨o, fromWire_toWire_of_decode h, encode_eq_ok.2 (decode_eq_ok.1 h)⟩

end Output

/-- Sending as JSON loses nothing of any type that is read from JSON, nor of an output that is
decoded from bytes or finished from a draft. -/
theorem wire_round_trip :
    ((∀ kind, WireRoundTrip (Identifier kind)) ∧ WireRoundTrip OutputId ∧ WireRoundTrip Amount ∧
      WireRoundTrip Address ∧ WireRoundTrip NativeToken ∧ WireRoundTrip NativeTokens ∧
      WireRoundTrip SimpleTokenScheme ∧ WireRoundTrip TokenScheme ∧
      WireRoundTrip StorageDepositReturn ∧ WireRoundTrip Timelock ∧ WireRoundTrip Expiration ∧
      WireRoundTrip UnlockCondition ∧ WireRoundTrip UnlockConditions ∧
      WireRoundTrip Feature ∧ WireRoundTrip Features ∧ WireRoundTrip Output ∧
      WireRoundTrip TreasuryOutput ∧ WireRoundTrip BasicOutput ∧ WireRoundTrip AliasOutput ∧
      WireRoundTrip FoundryOutput ∧ WireRoundTrip NftOutput ∧
      WireRoundTrip RentStructure ∧ WireRoundTrip ProtocolParameters ∧
      WireRoundTrip Message ∧ WireRoundTrip Response ∧ WireRoundTrip OperationError) ∧
    (∀ (kind : DraftKind) (j : Json) (d : Draft), j.Canonical → Draft.ofJson kind j = .ok d →
      Draft.ofJson kind d.toJson.sorted = .ok d) ∧
    (∀ (j : Json) (r : Response), j.Canonical → Response.ofEnvelope j = .ok r →
      Response.ofEnvelope (toWire r) = .ok r) ∧
    (∀ (bytes : Bytes) (o : Output), Output.decode bytes = .ok o →
      fromWire (toWire o) = .ok o ∧
        ∃ o' : Output, fromWire (toWire o) = .ok o' ∧ o'.encode = .ok bytes) ∧
    ∀ (d : Draft) (p : ProtocolParameters) (o : Output), d.finish p = .ok o →
      fromWire (toWire o) = .ok o := by
  refine ⟨⟨fun kind => LawfulWire.roundTrip _, ?_⟩, ?_, ?_, ?_, ?_⟩
  · refine ⟨?_, ?_, ?_, ?_, ?_, ?_, ?_, ?_, ?_, ?_, ?_, ?_, ?_, ?_, ?_, ?_, ?_, ?_, ?_, ?_, ?_, ?_,
      ?_, ?_, ?_⟩
    all_goals exact LawfulWire.roundTrip _
  · intro kind j d hj h
    exact Draft.ofJson_toJson_of_ofJson hj h
  · intro j r hj h
    exact Response.ofEnvelope_toJson (Response.payloadSurvives_of_ofEnvelope hj h)
  · intro bytes o h
    exact ⟨Output.fromWire_toWire_of_decode h, Output.encode_fromWire_toWire h⟩
  · intro d p o h
    exact Output.fromWire_toWire_of_finish h

/-- An output of an unknown kind keeps the fields that it came with. -/
theorem wire_round_trip_unrecognized :
    fromWire (.object [("kept", .array []), ("type", .number (.integer 7))]) =
        .ok (Output.unknown ⟨7, .fields [("kept", .array [])]⟩) ∧
      fromWire (toWire (Output.unknown ⟨7, .fields [("kept", .array [])]⟩)) =
        .ok (Output.unknown ⟨7, .fields [("kept", .array [])]⟩) := by
  have hread : fromWire (.object [("kept", .array []), ("type", .number (.integer 7))]) =
      .ok (Output.unknown ⟨7, .fields [("kept", .array [])]⟩) := by rfl
  have hcanonical :
      (Json.object [("kept", .array []), ("type", .number (.integer 7))]).Canonical := by
    constructor
    · unfold Json.KeysIncrease
      decide
    · exact ⟨trivial, trivial, trivial⟩
  obtain ⟨-, -, -, -, -, -, -, -, -, -, -, -, -, -, -, houtput, -⟩ := wire_round_trip.1
  exact ⟨hread, houtput _ _ hcanonical hread⟩

end UtxoCodec
