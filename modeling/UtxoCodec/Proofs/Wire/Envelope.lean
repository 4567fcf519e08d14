import UtxoCodec.Proofs.Json.Verbatim
import UtxoCodec.Proofs.Wire.Tame

/-!
# Envelopes

The discriminator of an envelope decides which payload is read (`Response.ofEnvelope_of_type`), and
nothing of the payload decides whether the discriminator is known. Reading a payload fails with
errors of decoding only; on a tame payload they are proper ones (`Response.ofPayload_fails`).

Main statement: `Response.dispatch_by_discriminator`.
-/

namespace UtxoCodec

open Outcome Json

/-- The known discriminators. -/
def Response.discriminators : List String :=
  ["computeAliasIdResponse", "computeNftIdResponse", "computeFoundryIdResponse",
    "computeOutputIdResponse", "buildBasicOutputResponse", "buildAliasOutputResponse",
    "buildFoundryOutputResponse", "buildNftOutputResponse", "packOutputResponse",
    "unpackOutputResponse", "minimumStorageDepositResponse", "protocolParametersResponse",
    "hexToBech32Response", "bech32ToHexResponse", "error"]

/-- The error is one of decoding: of JSON, or of a text in it. -/
def Error.IsDecoding : Error → Prop
  | .json _ | .decoding _ => True
  | .encoding _ | .input _ | .unknownResponse _ _ => False

/-! ## Discriminators -/

namespace ResponseKind

theorem map_name_all : all.map name = Response.discriminators := rfl

theorem ofName?_eq_some {text : String} {kind : ResponseKind} :
    ofName? text = some kind ↔ kind.name = text := by
  constructor
  · intro h
    unfold ofName? at h
    simpa using List.find?_some h
  · rintro rfl
    exact ofName?_name kind

theorem exists_ofName?_iff {text : String} :
    (∃ kind, ofName? text = some kind) ↔ text ∈ Response.discriminators := by
  rw [← map_name_all, List.mem_map]
  constructor
  · rintro ⟨kind, hkind⟩
    exact ⟨kind, List.mem_of_find?_eq_some hkind, ofName?_eq_some.1 hkind⟩
  · rintro ⟨kind, -, hname⟩
    exact ⟨kind, ofName?_eq_some.2 hname⟩

theorem ofName?_eq_none {text : String} : ofName? text = none ↔ text ∉ Response.discriminators := by
  rw [← exists_ofName?_iff, ← Option.isSome_iff_exists, Option.not_isSome_iff_eq_none]

end ResponseKind

/-! ## Payloads -/

instance OperationError.concludingWire : ConcludingWire OperationError where
  concludes := (Record.Concludes.seq (.map .required OperationError.mk) .required).ofObjectOrArray

namespace Response

/-- The payload is read as a response of the discriminator that it was read for. -/
theorem kind_of_ofPayload {kind : ResponseKind} {payload : Json} {r : Response}
    (h : ofPayload kind payload = .ok r) : r.kind = kind := by
  cases kind with
  | packOutput =>
    obtain ⟨bytes, -, rfl⟩ := map_eq_ok.1 h
    rfl
  | _ =>
    simp only [ofPayload] at h
    split at h
    · cases h
      rfl
    · cases h

theorem readPacked_fails (payload : Json) :
    FailsWith (fun e => e.toError.IsDecoding ∧ (payload.Tame → e.toError.aborts = false))
      (readPacked payload) := by
  cases payload with
  | string text =>
    refine .mapError (P := fun fault => ¬ Hex.LoneWide text → fault ≠ .abort) ?_ ?_
    · exact fun fault hfault htext => Hex.decode_ne_abort htext fault hfault
    · intro fault hproper
      refine ⟨trivial, fun htame => ?_⟩
      have hne := hproper (tame_string.1 htame)
      cases fault with
      | abort => exact absurd rfl hne
      | _ => rfl
  | _ => exact .error ⟨trivial, fun _ => rfl⟩

/-- A payload that does not read is an error of decoding, never an unknown discriminator. -/
theorem ofPayload_fails (kind : ResponseKind) (payload : Json) :
    FailsWith (fun e => e.toError.IsDecoding ∧ (payload.Tame → e.toError.aborts = false))
      (ofPayload kind payload) := by
  cases kind with
  | packOutput => exact .map (readPacked_fails payload) packOutput
  | _ =>
    simp only [ofPayload]
    split
    · exact .ok _
    · next e he =>
      exact .error ⟨trivial, fun htame => ConcludingWire.concludes payload htame e he⟩

/-! ## Envelopes -/

/-- The payload of an envelope, null if there is none. -/
def payloadOf (j : Json) : Json := (j.field? "payload").getD .null

theorem ofEnvelope_of_type {j : Json} {text : String}
    (h : j.field? "type" = some (.string text)) :
    ofEnvelope j = match ResponseKind.ofName? text with
      | some kind => ofPayload kind (payloadOf j)
      | none => .error (.unknownKind text (payloadOf j)) := by
  cases j with
  | object fields =>
    have htype : (Record.required "type").Reads fields (some text) := .found h rfl
    have hpayload : (Record.fieldOr (some .null) "payload" .ok).Reads fields
        (some (payloadOf (.object fields))) := by
      show Record.Reads _ _ (some ((find? fields "payload").getD .null))
      cases hfind : find? fields "payload" with
      | some payload => exact .found hfind rfl
      | none => exact .absent hfind
    have hreads : envelope.Reads fields (some (text, payloadOf (.object fields))) :=
      .seq (.map htype Prod.mk) hpayload
    have henvelope : envelope.ofObjectOrArray (.object fields) =
        .ok (text, payloadOf (.object fields)) :=
      Record.unplaced_eq_ok.2 (toOption_eq_some.1 (hreads 0))
    unfold ofEnvelope
    rw [henvelope]
    rfl
  | _ => cases h

/-- The fields of an envelope that is written. -/
theorem field?_toWire (r : Response) :
    (toWire r).field? "type" = some (.string r.kind.name) ∧
      (toWire r).field? "payload" = some r.payload.sorted := by
  have hnodup : (keys [("type", Json.string r.kind.name), ("payload", r.payload)]).Nodup := by
    show ["type", "payload"].Nodup
    decide
  exact ⟨field?_sorted_object hnodup "type", field?_sorted_object hnodup "payload"⟩

section Dispatch

variable {j : Json} {text : String}

/-- Only the discriminator decides whether an envelope is of an unknown kind. -/
theorem ofEnvelope_eq_unknownKind (htype : j.field? "type" = some (.string text))
    {unknown : String} {payload : Json} :
    ofEnvelope j = .error (.unknownKind unknown payload) ↔
      text ∉ discriminators ∧ unknown = text ∧ payload = payloadOf j := by
  rw [ofEnvelope_of_type htype, ← ResponseKind.ofName?_eq_none]
  cases ResponseKind.ofName? text with
  | none => simp [eq_comm]
  | some kind =>
    refine iff_of_false (fun herror => ?_) fun h => nomatch h.1
    exact (ofPayload_fails kind (payloadOf j) _ herror).1

/-- A response that is read has the discriminator of its envelope, and is written so that it is read
again. -/
theorem written_of_ofEnvelope (hj : j.Canonical) (htype : j.field? "type" = some (.string text))
    {r : Response} (h : ofEnvelope j = .ok r) :
    r.kind.name = text ∧ (toWire r).field? "type" = some (.string text) ∧
      (∃ payload, (toWire r).field? "payload" = some payload ∧ ofPayload r.kind payload = .ok r) ∧
      ofEnvelope (toWire r) = .ok r := by
  have hsurvives := payloadSurvives_of_ofEnvelope hj h
  obtain ⟨hwritten, hfield⟩ := field?_toWire r
  have hkind : r.kind.name = text := by
    rw [ofEnvelope_of_type htype] at h
    split at h
    · next kind hname =>
      rw [kind_of_ofPayload h]
      exact ResponseKind.ofName?_eq_some.1 hname
    · cases h
  rw [hkind] at hwritten
  exact ⟨hkind, hwritten, ⟨_, hfield, ofPayload_payload hsurvives⟩, ofEnvelope_toJson hsurvives⟩

theorem ofEnvelope_fails (htype : j.field? "type" = some (.string text))
    (hknown : text ∈ discriminators) :
    FailsWith (fun e => e.toError.IsDecoding ∧ ((payloadOf j).Tame → e.toError.aborts = false))
      (ofEnvelope j) := by
  obtain ⟨kind, hname⟩ := ResponseKind.exists_ofName?_iff.2 hknown
  rw [ofEnvelope_of_type htype, hname]
  exact ofPayload_fails kind (payloadOf j)

/-- An envelope with a discriminator that is not known, and no other, is refused as such, and its
payload is reported as it came, whatever it is. With a known discriminator it is a response of that
discriminator, which is written with it and with a payload that reads as the response, or an error
of decoding. No reading comes to no outcome unless a text in the payload is one character of several
bytes. -/
theorem dispatch_by_discriminator (hj : j.Canonical)
    (htype : j.field? "type" = some (.string text)) :
    (∀ unknown payload, ofEnvelope j = .error (.unknownKind unknown payload) ↔
      text ∉ discriminators ∧ unknown = text ∧ payload = payloadOf j) ∧
    (text ∈ discriminators →
      (∃ r, ofEnvelope j = .ok r ∧ r.kind.name = text ∧
        (toWire r).field? "type" = some (.string text) ∧
        (∃ payload, (toWire r).field? "payload" = some payload ∧ ofPayload r.kind payload = .ok r) ∧
        ofEnvelope (toWire r) = .ok r) ∨
      ∃ e, ofEnvelope j = .error e ∧ e.toError.IsDecoding ∧
        ((payloadOf j).Tame → e.toError.aborts = false)) := by
  refine ⟨fun _ _ => ofEnvelope_eq_unknownKind htype, fun hknown => ?_⟩
  cases hread : ofEnvelope j with
  | ok r => exact .inl ⟨r, rfl, written_of_ofEnvelope hj htype hread⟩
  | error e => exact .inr ⟨e, rfl, ofEnvelope_fails htype hknown e hread⟩

/-- An envelope that is not known, with a payload that no schema takes, a known one with a payload
that its schema does not take, and one that is read and reads back. -/
theorem dispatch_by_discriminator_of_broken_payload :
    let unknown := Json.object [("payload", .string "é"), ("type", .string "unknownOpResponse")]
    let known := Json.object [("payload", nat 42), ("type", .string "computeAliasIdResponse")]
    let accepted := Json.object [("payload", .string "0x0102"), ("type", .string "packOutputResponse")]
    ofEnvelope unknown = .error (.unknownKind "unknownOpResponse" (.string "é")) ∧
      (∃ e, ofEnvelope known = .error e ∧ e.toError.IsDecoding ∧ e.toError.aborts = false) ∧
      ofEnvelope accepted = .ok (.packOutput [1, 2]) ∧
      (toWire (packOutput [1, 2])).field? "type" = some (.string "packOutputResponse") ∧
      ofEnvelope (toWire (packOutput [1, 2])) = .ok (.packOutput [1, 2]) := by
  intro unknown known accepted
  have hunknown := dispatch_by_discriminator (j := unknown) (by decide) rfl
  have hknown := dispatch_by_discriminator (j := known) (by decide) rfl
  have haccepted := dispatch_by_discriminator (j := accepted) (by decide) rfl
  refine ⟨(hunknown.1 _ _).2 ⟨by decide, rfl, rfl⟩, ?_, ?_⟩
  · rcases hknown.2 (by decide) with ⟨r, hr, -⟩ | ⟨e, he, hdecoding, haborts⟩
    · cases hr
    · exact ⟨e, he, hdecoding, haborts fun _ hmem => absurd hmem List.not_mem_nil⟩
  · have hread : ofEnvelope accepted = .ok (packOutput [1, 2]) := by rfl
    rcases haccepted.2 (by decide) with ⟨r, hr, -, htype, -, hback⟩ | ⟨e, he, -⟩
    · rw [hread] at hr
      cases hr
      exact ⟨hread, htype, hback⟩
    · rw [hread] at he
      cases he

end Dispatch

end Response

end UtxoCodec
