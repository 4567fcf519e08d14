import UtxoCodec.Response
import UtxoCodec.Proofs.Wire.Draft
import UtxoCodec.Proofs.Wire.Output
import UtxoCodec.Proofs.Wire.Protocol

/-!
# JSON forms of messages and responses

A message is read back by the name of its operation, and a response by its discriminator, if the
arguments and the payload survive; those of a message or response that was read do. Main statements:
`Message.survives`, `Response.ofEnvelope_toJson`, and the instances of `LawfulWire`.
-/

namespace UtxoCodec

open Outcome Json

/-! ## Messages -/

theorem Operation.named_name (operation : Operation) : named operation.name = .ok operation := by
  cases operation <;> rfl

namespace Message

/-- The arguments survive. -/
def ArgumentsSurvive : Message → Prop
  | computeAliasId id | computeNftId id => Survives id
  | buildOutput draft => draft.PartsSurvive
  | packOutput o | minimumStorageDeposit o => Survives o
  | setProtocolParameters p => Survives p
  | _ => True

theorem ofData_buildOperation (kind : DraftKind) (data : Json) :
    ofData (buildOperation kind) data = (Draft.ofJson kind data).map buildOutput := by
  cases kind <;> rfl

/-- The arguments are read back for the operation. -/
theorem ofData_data? {m : Message} (h : m.ArgumentsSurvive) {data : Json}
    (hdata : m.data? = some data) : ofData m.operation data.sorted = .ok m := by
  cases m with
  | computeAliasId id =>
    cases hdata
    exact (Record.Writes.map (.required h) computeAliasId).ofObject (by decide)
  | computeNftId id =>
    cases hdata
    exact (Record.Writes.map (.required h) computeNftId).ofObject (by decide)
  | computeFoundryId address serialNumber kind =>
    cases hdata
    exact (Record.Writes.seq (.seq (.map (.required address.survives) computeFoundryId)
      (.required (survives_uint64 serialNumber))) (.required (survives_uint8 kind))).ofObject
      (by decide)
  | computeOutputId id index =>
    cases hdata
    exact (Record.Writes.seq (.map (.required id.survives) computeOutputId)
      (.required (survives_uint16 index))).ofObject (by decide)
  | buildOutput draft =>
    cases hdata
    show ofData (buildOperation draft.kind) _ = _
    rw [ofData_buildOperation]
    exact map_eq_ok.2 ⟨draft, Draft.ofJson_toJson h, rfl⟩
  | packOutput o =>
    cases hdata
    exact (Record.Writes.map (.required h) packOutput).ofObject (by decide)
  | unpackOutput bytes =>
    cases hdata
    exact (Record.Writes.map (.present (readBytes_ofBytes bytes)) unpackOutput).ofObject (by decide)
  | minimumStorageDeposit o =>
    cases hdata
    exact (Record.Writes.map (.required h) minimumStorageDeposit).ofObject (by decide)
  | getProtocolParameters => cases hdata
  | setProtocolParameters p =>
    cases hdata
    exact map_eq_ok.2 ⟨p, h, rfl⟩
  | hexToBech32 hex hrp =>
    cases hdata
    exact (Record.Writes.seq (.map (.required (survives_string hex)) hexToBech32)
      (.optional (fun s _ => survives_string s) fun s heq => by cases heq)).ofObject (by decide)
  | bech32ToHex bech32 =>
    cases hdata
    exact (Record.Writes.map (.required (survives_string bech32)) bech32ToHex).ofObject (by decide)

theorem argumentsSurvive_of_draft {kind : DraftKind} {data : Json} {m : Message}
    (hdata : data.Canonical) (h : (Draft.ofJson kind data).map buildOutput = .ok m) :
    m.ArgumentsSurvive := by
  obtain ⟨draft, hdraft, rfl⟩ := map_eq_ok.1 h
  exact ((Draft.yields kind).of_ofObjectOrArray hdata hdraft).1

/-- The arguments that are read for an operation survive. -/
theorem argumentsSurvive_of_ofData {operation : Operation} {data : Json} {m : Message}
    (hdata : data.Canonical) (h : ofData operation data = .ok m) : m.ArgumentsSurvive := by
  cases operation with
  | computeAliasId =>
    exact (Record.Yields.map (f := computeAliasId) .required fun _ hid => hid).of_ofObject hdata h
  | computeNftId =>
    exact (Record.Yields.map (f := computeNftId) .required fun _ hid => hid).of_ofObject hdata h
  | computeFoundryId =>
    exact (Record.Yields.seq (.seq (.map .required fun _ _ _ _ _ _ => trivial) .required)
      .required).of_ofObject hdata h
  | computeOutputId =>
    exact (Record.Yields.seq (.map .required fun _ _ _ _ => trivial) .required).of_ofObject hdata h
  | buildBasicOutput => exact argumentsSurvive_of_draft hdata h
  | buildAliasOutput => exact argumentsSurvive_of_draft hdata h
  | buildFoundryOutput => exact argumentsSurvive_of_draft hdata h
  | buildNftOutput => exact argumentsSurvive_of_draft hdata h
  | packOutput =>
    exact (Record.Yields.map (f := packOutput) .required fun _ ho => ho).of_ofObject hdata h
  | unpackOutput =>
    exact (Record.Yields.map (P := fun _ => True)
      (.fieldOr (fun _ _ => trivial) fun _ _ => trivial) fun _ _ => trivial).of_ofObject hdata h
  | minimumStorageDeposit =>
    exact (Record.Yields.map (f := minimumStorageDeposit) .required fun _ ho => ho).of_ofObject
      hdata h
  | getProtocolParameters =>
    simp only [ofData] at h
    split at h
    · cases h
      trivial
    · cases h
  | setProtocolParameters =>
    obtain ⟨p, hp, rfl⟩ := map_eq_ok.1 h
    exact LawfulWire.survives_of_ofJson hdata hp
  | hexToBech32 =>
    exact (Record.Yields.seq (.map .required fun _ _ _ _ => trivial) .optional).of_ofObject hdata h
  | bech32ToHex => exact (Record.Yields.map .required fun _ _ => trivial).of_ofObject hdata h

theorem eq_of_ofAbsentData {operation : Operation} {m : Message}
    (h : ofAbsentData operation = .ok m) : m = getProtocolParameters := by
  cases operation with
  | getProtocolParameters =>
    cases h
    rfl
  | _ => cases h

/-- The arguments of every message that is read survive. -/
theorem argumentsSurvive_of_ofJson {j : Json} {m : Message} (hj : j.Canonical)
    (h : ofJson j = .ok m) : m.ArgumentsSurvive := by
  cases j with
  | object fields =>
    simp only [ofJson] at h
    split at h
    · cases h
    · obtain ⟨operation, -, h⟩ := bind_eq_ok.1 h
      split at h
      · next data hfind =>
        exact argumentsSurvive_of_ofData (canonicalFields_iff.1 hj.2 _ (mem_of_find? hfind)) h
      · rw [eq_of_ofAbsentData h]
        trivial
  | array items =>
    simp only [ofJson] at h
    split at h
    · obtain ⟨operation, -, h⟩ := bind_eq_ok.1 h
      split at h
      · obtain ⟨message, hmessage, h⟩ := bind_eq_ok.1 h
        split at h
        · cases h
          exact argumentsSurvive_of_ofData hj.2.1 hmessage
        · cases h
      · cases h
    · cases h
  | _ => cases h

/-- A message is read back if its arguments survive. -/
theorem survives {m : Message} (h : m.ArgumentsSurvive) : Survives m := by
  have hnodup : (keys (sortedFields
      (("name", .string m.operation.name) :: optionalField "data" id m.data?))).Nodup := by
    rw [keys_sortedFields]
    cases m.data? with
    | none => exact (by decide : ["name"].Nodup)
    | some data => exact (by decide : ["name", "data"].Nodup)
  have hname : find? (ofFields (sortedFields
      (("name", .string m.operation.name) :: optionalField "data" id m.data?))) "name" =
        some (.string m.operation.name) := by
    rw [find?_ofFields hnodup, find?_sortedFields, find?_cons, if_pos rfl]
    rfl
  have hdata : find? (ofFields (sortedFields
      (("name", .string m.operation.name) :: optionalField "data" id m.data?))) "data" =
        m.data?.map sorted := by
    rw [find?_ofFields hnodup, find?_sortedFields, find?_cons, if_neg (by decide)]
    cases m.data? <;> rfl
  show ofJson (.object (ofFields _)) = _
  simp only [ofJson, hname, hdata]
  refine bind_eq_ok.2 ⟨m.operation, Operation.named_name m.operation, ?_⟩
  cases hm : m.data? with
  | some data => exact ofData_data? h hm
  | none =>
    cases m with
    | getProtocolParameters => rfl
    | _ => cases hm

instance : LawfulWire Message := ⟨fun hj h => survives (argumentsSurvive_of_ofJson hj h)⟩

end Message

/-! ## Responses -/

namespace OperationError

theorem writes (e : OperationError) :
    record.Writes [("operation", .string e.operation), ("message", .string e.message)] e :=
  .seq (.map (.required (survives_string e.operation)) _) (.required (survives_string e.message))

theorem survives (e : OperationError) : Survives e :=
  e.writes.ofObjectOrArray (by decide)

instance : LawfulWire OperationError := ⟨fun _ _ => survives _⟩

end OperationError

theorem ResponseKind.ofName?_name (kind : ResponseKind) : ofName? kind.name = some kind := by
  cases kind with
  | buildOutput kind => cases kind <;> rfl
  | _ => rfl

namespace Response

/-- The payload survives. -/
def PayloadSurvives : Response → Prop
  | computeOutputId id => Survives id
  | buildOutput _ o | unpackOutput o => Survives o
  | protocolParameters p => Survives p
  | _ => True

theorem readPacked_ofBytes (bytes : Bytes) : readPacked (ofBytes bytes).sorted = .ok bytes := by
  refine bind_eq_ok.2 ⟨Hex.encode bytes, rfl, ?_⟩
  exact mapError_eq_ok.2 (Hex.decode_encode bytes)

/-- The payload is read back for the discriminator. -/
theorem ofPayload_payload {r : Response} (h : r.PayloadSurvives) :
    ofPayload r.kind r.payload.sorted = .ok r := by
  cases r with
  | computeAliasId a | computeNftId a | computeFoundryId a | minimumStorageDeposit a | error a =>
    have hread : Wire.ofJson (Wire.toJson a).sorted = .ok a := a.survives
    simp only [ofPayload, kind, payload, hread]
  | computeOutputId a | buildOutput _ a | unpackOutput a | protocolParameters a =>
    have hread : Wire.ofJson (Wire.toJson a).sorted = .ok a := h
    simp only [ofPayload, kind, payload, hread]
  | packOutput bytes => exact map_eq_ok.2 ⟨bytes, readPacked_ofBytes bytes, rfl⟩
  | hexToBech32 bech32 => rfl
  | bech32ToHex hex => rfl

/-- The payload that is read for a discriminator survives. -/
theorem payloadSurvives_of_ofPayload {kind : ResponseKind} {payload : Json} {r : Response}
    (hpayload : payload.Canonical) (h : ofPayload kind payload = .ok r) : r.PayloadSurvives := by
  cases kind with
  | packOutput =>
    obtain ⟨bytes, -, rfl⟩ := map_eq_ok.1 h
    trivial
  | computeOutputId | buildOutput _ | unpackOutput | protocolParameters =>
    simp only [ofPayload] at h
    split at h
    · next a ha =>
      cases h
      exact LawfulWire.survives_of_ofJson hpayload ha
    · cases h
  | _ =>
    simp only [ofPayload] at h
    split at h
    · cases h
      trivial
    · cases h

/-- A response is read back if its payload survives. -/
theorem ofEnvelope_toJson {r : Response} (h : r.PayloadSurvives) :
    ofEnvelope r.toJson.sorted = .ok r := by
  have hw : envelope.Writes [("type", .string r.kind.name), ("payload", r.payload)]
      (r.kind.name, r.payload.sorted) :=
    .seq (.map (.required (survives_string r.kind.name)) _) (.present rfl)
  have henvelope : envelope.ofObjectOrArray r.toJson.sorted = .ok (r.kind.name, r.payload.sorted) :=
    hw.ofObjectOrArray (by decide)
  refine bind_eq_ok.2 ⟨_, mapError_eq_ok.2 henvelope, ?_⟩
  simp only [ResponseKind.ofName?_name]
  exact ofPayload_payload h

/-- The payload of an envelope is canonical if the envelope is. -/
theorem envelope_yields : envelope.Yields fun p => p.2.Canonical := by
  refine .seq (.map .required fun _ _ _ hpayload => hpayload) (.fieldOr ?_ ?_)
  · intro j a hj h
    cases h
    exact hj
  · intro a h
    cases h
    trivial

theorem payloadSurvives_of_ofEnvelope {j : Json} {r : Response} (hj : j.Canonical)
    (h : ofEnvelope j = .ok r) : r.PayloadSurvives := by
  obtain ⟨⟨name, payload⟩, henvelope, h⟩ := bind_eq_ok.1 h
  have hpayload : payload.Canonical :=
    envelope_yields.of_ofObjectOrArray hj (mapError_eq_ok.1 henvelope)
  dsimp only at h
  split at h
  · exact payloadSurvives_of_ofPayload hpayload h
  · cases h

instance : LawfulWire Response where
  survives_of_ofJson hj h :=
    mapError_eq_ok.2 (ofEnvelope_toJson (payloadSurvives_of_ofEnvelope hj (mapError_eq_ok.1 h)))

end Response

end UtxoCodec
