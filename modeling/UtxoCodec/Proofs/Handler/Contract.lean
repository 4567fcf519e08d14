import UtxoCodec.Proofs.Handler.Answer
import UtxoCodec.Proofs.RoundTrip

/-!
# What an answer guarantees

A step of a handler is inverted once: a message is either fulfilled (`Handler.Fulfils`, one case for
each operation) or it fails and leaves the handler as it was. Everything that is promised of an
answer (`Handler.Contract`) is read off these cases. Main statement: `Handler.step_contract`.
-/

namespace UtxoCodec

open Outcome

/-! ## Answers -/

/-- The discriminator of the response that answers an operation. -/
def Operation.responseKind : Operation → ResponseKind
  | .computeAliasId => .computeAliasId
  | .computeNftId => .computeNftId
  | .computeFoundryId => .computeFoundryId
  | .computeOutputId => .computeOutputId
  | .buildBasicOutput => .buildOutput .basic
  | .buildAliasOutput => .buildOutput .alias
  | .buildFoundryOutput => .buildOutput .foundry
  | .buildNftOutput => .buildOutput .nft
  | .packOutput => .packOutput
  | .unpackOutput => .unpackOutput
  | .minimumStorageDeposit => .minimumStorageDeposit
  | .getProtocolParameters => .protocolParameters
  | .setProtocolParameters => .protocolParameters
  | .hexToBech32 => .hexToBech32
  | .bech32ToHex => .bech32ToHex

theorem Message.responseKind_buildOperation (kind : DraftKind) :
    (buildOperation kind).responseKind = .buildOutput kind := by
  cases kind <;> rfl

/-- The output that a response answers with, if it does. -/
def Response.output? : Response → Option Output
  | .buildOutput _ o => some o
  | .unpackOutput o => some o
  | _ => none

namespace Handler

/-- How a message is answered that does not fail, under the parameters in force. -/
inductive Fulfils (p : ProtocolParameters) : Message → Response → Prop where
  | computeAliasId (id : OutputId) (aliasId : AliasId) :
      Fulfils p (.computeAliasId id) (.computeAliasId aliasId)
  | computeNftId (id : OutputId) (nftId : NftId) :
      Fulfils p (.computeNftId id) (.computeNftId nftId)
  | computeFoundryId (address : Address) (serialNumber : UInt64) (kind : UInt8) (id : FoundryId) :
      Fulfils p (.computeFoundryId address serialNumber kind) (.computeFoundryId id)
  | computeOutputId (transactionId : TransactionId) (index : UInt16) (id : OutputId) :
      Fulfils p (.computeOutputId transactionId index) (.computeOutputId id)
  | buildOutput (draft : Draft) (o : Output) (finished : draft.finish p = .ok o) :
      Fulfils p (.buildOutput draft) (.buildOutput draft.kind o)
  | packOutput (o : Output) (bytes : Bytes) (encoded : o.encode = .ok bytes) :
      Fulfils p (.packOutput o) (.packOutput bytes)
  | unpackOutput (bytes : Bytes) (o : Output) (decoded : Output.decode bytes = .ok o) :
      Fulfils p (.unpackOutput bytes) (.unpackOutput o)
  | minimumStorageDeposit (o : Output) (cost : UInt64)
      (priced : p.rentStructure.rentCost o = .ok cost) :
      Fulfils p (.minimumStorageDeposit o) (.minimumStorageDeposit (.ofUInt64 cost))
  | getProtocolParameters : Fulfils p .getProtocolParameters (.protocolParameters p)
  | setProtocolParameters (p' : ProtocolParameters) :
      Fulfils p (.setProtocolParameters p') (.protocolParameters p')
  | hexToBech32 (hex : String) (hrp : Option String) (bech32 : String) :
      Fulfils p (.hexToBech32 hex hrp) (.hexToBech32 bech32)
  | bech32ToHex (bech32 hex : String) : Fulfils p (.bech32ToHex bech32) (.bech32ToHex hex)

variable {h next : Handler} {choice : Nat} {m : Message} {response : Response}

theorem fulfils_of_perform (hok : (h.perform choice m).1 = .ok response) :
    Fulfils h.parameters m response := by
  cases m with
  | computeAliasId id =>
    cases hok
    exact .computeAliasId ..
  | computeNftId id =>
    cases hok
    exact .computeNftId ..
  | computeFoundryId address serialNumber kind =>
    obtain ⟨id, -, rfl⟩ := map_eq_ok.1 (mapError_eq_ok.1 hok)
    exact .computeFoundryId ..
  | computeOutputId transactionId index =>
    obtain ⟨id, -, rfl⟩ := map_eq_ok.1 (mapError_eq_ok.1 hok)
    exact .computeOutputId ..
  | buildOutput draft =>
    obtain ⟨o, hfinish, rfl⟩ := map_eq_ok.1 (mapError_eq_ok.1 hok)
    exact .buildOutput draft o hfinish
  | packOutput o =>
    obtain ⟨bytes, hencode, rfl⟩ := map_eq_ok.1 (mapError_eq_ok.1 hok)
    exact .packOutput o bytes hencode
  | unpackOutput bytes =>
    obtain ⟨o, hdecode, rfl⟩ := map_eq_ok.1 (mapError_eq_ok.1 hok)
    exact .unpackOutput bytes o hdecode
  | minimumStorageDeposit o =>
    obtain ⟨cost, hcost, rfl⟩ := map_eq_ok.1 (mapError_eq_ok.1 hok)
    exact .minimumStorageDeposit o cost hcost
  | getProtocolParameters =>
    cases hok
    exact .getProtocolParameters
  | setProtocolParameters p =>
    cases hok
    exact .setProtocolParameters p
  | hexToBech32 hex hrp =>
    obtain ⟨_, -, hok⟩ := bind_eq_ok.1 hok
    obtain ⟨bech32, -, hok⟩ := bind_eq_ok.1 hok
    cases hok
    exact .hexToBech32 hex hrp bech32
  | bech32ToHex bech32 =>
    obtain ⟨_, -, rfl⟩ := map_eq_ok.1 (mapError_eq_ok.1 hok)
    exact .bech32ToHex ..

/-- A message that fails leaves the handler as it was. -/
theorem perform_of_error {e : Error} (herror : (h.perform choice m).1 = .error e) :
    (h.perform choice m).2 = h := by
  cases m with
  | computeAliasId id => cases herror
  | computeNftId id => cases herror
  | computeFoundryId address serialNumber kind =>
    have hfailed : ∃ e', (h.cache.foundryId choice address serialNumber kind).1 = .error e' := by
      cases hresult : (h.cache.foundryId choice address serialNumber kind).1 with
      | ok id =>
        simp only [perform, hresult] at herror
        cases herror
      | error e' => exact ⟨e', rfl⟩
    obtain ⟨e', hfailed⟩ := hfailed
    simp only [perform]
    rw [DerivationCache.foundryId_of_error hfailed]
  | setProtocolParameters p => cases herror
  | _ => rfl

/-- An answer is that of a message fulfilled, or the report of a failure. -/
theorem answer_eq_answered (hanswer : h.answer choice m = .answered response next) :
    ((h.perform choice m).1 = .ok response ∧ next = (h.perform choice m).2) ∨
      next = h ∧ ∃ e : Error, response = .error ⟨m.operation.name, e.message⟩ := by
  have hkept (e : Error) : (h.perform choice m).1 = .error e → (h.perform choice m).2 = h :=
    perform_of_error
  unfold answer at hanswer
  generalize h.perform choice m = performed at hanswer hkept ⊢
  obtain ⟨result, after⟩ := performed
  cases result with
  | ok response' =>
    cases hanswer
    exact .inl ⟨rfl, rfl⟩
  | error e =>
    dsimp only at hanswer
    split at hanswer
    · cases hanswer
    · cases hanswer
      exact .inr ⟨hkept e rfl, e, rfl⟩

/-! ## The contract -/

/-- What an answer to a message guarantees, and what it leaves of the handler `h`. The amount of an
output that is built is bounded by the supply in force before the message. -/
structure Contract (h : Handler) (m : Message) (response : Response) (next : Handler) : Prop where
  belongs : response.kind = m.operation.responseKind ∨
    ∃ text, response = .error ⟨m.operation.name, text⟩
  frame : response.kind = .error → next = h
  parameters : (∀ p, m ≠ .setProtocolParameters p) → next.parameters = h.parameters
  installed : ∀ p, m = .setProtocolParameters p →
    response = .protocolParameters p ∧ next = { h with parameters := p }
  verified : ∀ o, response.output? = some o → o.verify = .ok ()
  built : ∀ kind o, response = .buildOutput kind o →
    o.draftKind? = some kind ∧ ∃ amount, o.amount? = some amount ∧ 1 ≤ amount.value ∧
      amount.value ≤ h.parameters.tokenSupply.value
  packed : ∀ o bytes, m = .packOutput o → response = .packOutput bytes →
    Output.decode bytes = .ok o
  unpacked : ∀ bytes o, m = .unpackOutput bytes → response = .unpackOutput o →
    o.encode = .ok bytes

namespace Fulfils

variable {p : ProtocolParameters}

theorem kind_eq (hf : Fulfils p m response) : response.kind = m.operation.responseKind := by
  cases hf with
  | buildOutput draft o _ => exact (Message.responseKind_buildOperation draft.kind).symm
  | _ => rfl

theorem verify_output (hf : Fulfils p m response) {o : Output} (ho : response.output? = some o) :
    o.verify = .ok () := by
  cases hf with
  | buildOutput draft o' hfinish =>
    cases ho
    exact Draft.verify_of_finish hfinish
  | unpackOutput bytes o' hdecode =>
    cases ho
    exact (Output.decode_eq_ok.1 hdecode).1
  | _ => cases ho

end Fulfils

theorem responseKind_ne_error (operation : Operation) : operation.responseKind ≠ .error := by
  cases operation <;> decide

theorem contract_of_perform (hok : (h.perform choice m).1 = .ok response) :
    Contract h m response (h.perform choice m).2 where
  belongs := .inl (fulfils_of_perform hok).kind_eq
  frame herror := by
    rw [(fulfils_of_perform hok).kind_eq] at herror
    exact absurd herror (responseKind_ne_error _)
  parameters hnone := by
    cases m with
    | setProtocolParameters p => exact absurd rfl (hnone p)
    | _ => rfl
  installed := by
    rintro p rfl
    cases hok
    exact ⟨rfl, rfl⟩
  verified _ ho := (fulfils_of_perform hok).verify_output ho
  built := by
    rintro kind o rfl
    cases fulfils_of_perform hok with
    | buildOutput draft _ hfinish => exact Draft.kind_amount_of_finish hfinish
  packed := by
    rintro o bytes rfl rfl
    cases fulfils_of_perform hok with
    | packOutput _ _ hencode => exact Output.decode_eq_ok.2 (Output.encode_eq_ok.1 hencode)
  unpacked := by
    rintro bytes o rfl rfl
    cases fulfils_of_perform hok with
    | unpackOutput _ _ hdecode => exact Output.encode_eq_ok.2 (Output.decode_eq_ok.1 hdecode)

theorem contract_of_failure (hset : ∀ p, m ≠ .setProtocolParameters p) (text : String) :
    Contract h m (.error ⟨m.operation.name, text⟩) h where
  belongs := .inr ⟨text, rfl⟩
  frame _ := rfl
  parameters _ := rfl
  installed p heq := absurd heq (hset p)
  verified _ ho := by cases ho
  built _ _ heq := by cases heq
  packed _ _ _ heq := by cases heq
  unpacked _ _ _ heq := by cases heq

theorem answer_setProtocolParameters (h : Handler) (choice : Nat) (p : ProtocolParameters) :
    h.answer choice (.setProtocolParameters p) =
      .answered (.protocolParameters p) { h with parameters := p } := rfl

theorem contract_of_answer (hanswer : h.answer choice m = .answered response next) :
    Contract h m response next := by
  rcases answer_eq_answered hanswer with ⟨hok, rfl⟩ | ⟨rfl, e, rfl⟩
  · exact contract_of_perform hok
  · refine contract_of_failure ?_ _
    rintro p rfl
    rw [answer_setProtocolParameters] at hanswer
    cases hanswer

/-- Whatever a handler remembers and whichever parameters are in force: an answer to a value that is
no message reports that and changes nothing, and an answer to a message keeps the contract. Putting
parameters in force is always answered. A value is answered if and only if reading hexadecimal text in
it comes to an outcome; it does without a text that is one character of several bytes. -/
theorem step_contract (h : Handler) (choice : Nat) (j : Json) :
    (∀ response next, h.answerJson choice j = .answered response next →
      (∀ e, (fromWire j : Except JsonError Message) = .error e →
        response = .error ⟨"parseMessage", e.message⟩ ∧ next = h) ∧
      ∀ m : Message, fromWire j = .ok m → Contract h m response next) ∧
    (∀ p, fromWire j = .ok (Message.setProtocolParameters p) → h.answerJson choice j =
      .answered (.protocolParameters p) { h with parameters := p }) ∧
    ((∀ text ∈ j.texts, ¬ Hex.LoneWide text) →
      ∃ response next, h.answerJson choice j = .answered response next) ∧
    ((∃ response next, h.answerJson choice j = .answered response next) ↔ ¬ Unanswerable j) := by
  refine ⟨fun response next hanswer => ⟨fun e hread => ?_, fun m hread => ?_⟩, fun p hread => ?_,
    fun hj => answerJson_eq_answered.2 (not_unanswerable_of_tame hj), answerJson_eq_answered⟩
  · rw [answerJson_of_error hread] at hanswer
    split at hanswer
    · cases hanswer
    · cases hanswer
      exact ⟨rfl, rfl⟩
  · rw [answerJson_of_ok hread] at hanswer
    exact contract_of_answer hanswer
  · rw [answerJson_of_ok hread, answer_setProtocolParameters]

/-- An output of an unknown kind is packed, and its bytes are decoded to it. -/
theorem step_contract_at_unknown_kind :
    (start .shimmer 1).answerJson 0 (.object
        [("data", .object
            [("output", .object [("opaque", .string "0x01"), ("type", .number (.integer 7))])]),
          ("name", .string "packOutput")]) =
        .answered (.packOutput [7, 1]) (start .shimmer 1) ∧
      Contract (start .shimmer 1) (.packOutput (.unknown ⟨7, .packed [1]⟩)) (.packOutput [7, 1])
        (start .shimmer 1) := by
  have hread : fromWire (Json.object
      [("data", .object
          [("output", .object [("opaque", .string "0x01"), ("type", .number (.integer 7))])]),
        ("name", .string "packOutput")]) =
      .ok (Message.packOutput (.unknown ⟨7, .packed [1]⟩)) := by rfl
  have hanswer : (start .shimmer 1).answer 0 (.packOutput (.unknown ⟨7, .packed [1]⟩)) =
      .answered (.packOutput [7, 1]) (start .shimmer 1) := by rfl
  rw [← answerJson_of_ok hread] at hanswer
  exact ⟨hanswer, ((step_contract ..).1 _ _ hanswer).2 _ hread⟩

/-! ## Runs -/

/-- Whatever a request is, an output in the response to it verifies. -/
theorem verify_of_respond {q : Request} (hanswer : h.respond choice q = .answered response next)
    {o : Output} (ho : response.output? = some o) : o.verify = .ok () := by
  cases q with
  | message m => exact (contract_of_answer hanswer).verified o ho
  | json j =>
    replace hanswer : h.answerJson choice j = .answered response next := hanswer
    cases hread : (fromWire j : Except JsonError Message) with
    | ok m =>
      rw [answerJson_of_ok hread] at hanswer
      exact (contract_of_answer hanswer).verified o ho
    | error e =>
      rw [answerJson_of_error hread] at hanswer
      split at hanswer
      · cases hanswer
      · cases hanswer
        cases ho

/-- No run answers with an output that does not verify. -/
theorem verify_of_mem_responses {choices : Nat → Nat} {requests : List Request}
    (hmem : response ∈ h.responses choices requests) {o : Output}
    (ho : response.output? = some o) : o.verify = .ok () := by
  induction requests generalizing h choices with
  | nil => cases hmem
  | cons q rest ih =>
    unfold responses at hmem
    split at hmem
    · next answered next hanswer =>
      rcases List.mem_cons.1 hmem with rfl | hmem
      · exact verify_of_respond hanswer ho
      · exact ih hmem
    · cases hmem

end Handler

end UtxoCodec
