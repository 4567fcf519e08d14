import UtxoCodec.Proofs.Handler.Run
import UtxoCodec.Proofs.Wire.Tame

/-!
# Which requests are answered

A handler answers every request unless reading hexadecimal text comes to no outcome. In a message
that is already read there is one such text, that of a hash to be written in bech32; in JSON it may
be any string that is read as bytes, as a number or as an identifier. `Handler.Unanswerable` says so
of a value without the handler, and a value without a lone wide character is not of that kind. Main
statements: `Handler.answer_eq_aborted` on messages and
`Handler.answered_without_lone_wide_text` on values and runs.
-/

namespace UtxoCodec

open Outcome Json

/-! ## Messages -/

theorem Address.ofBech32_not_aborts (bech32 : String) :
    FailsWith (fun e => e.aborts = false) (ofBech32 bech32) :=
  .bind (.reported fun _ => rfl) fun p _ => .bind (unpackExact_not_aborts p.2) fun _ _ => .ok _

namespace Handler

theorem hexToBech32_proper {hex : String} (hhex : ¬ Hex.LoneWide hex) (hrp : String) :
    FailsWith (fun e => e.aborts = false) (do
      let hash : Ed25519Address ← (Identifier.ofText hex).mapError Error.decoding
      let bech32 ← ((Address.ed25519 hash).toBech32 hrp).mapError Error.encoding
      return Response.hexToBech32 bech32) :=
  .bind (.mapError (Identifier.ofText_proper hhex) fun _ he => he) fun _ _ =>
    .bind (.reported fun _ => rfl) fun _ _ => .ok _

/-- The text of a hash apart, carrying out a message fails with proper errors only. -/
theorem perform_proper (h : Handler) (choice : Nat) {m : Message}
    (hm : ∀ hex hrp, m = .hexToBech32 hex hrp → ¬ Hex.LoneWide hex) :
    FailsWith (fun e => e.aborts = false) (h.perform choice m).1 := by
  cases m with
  | computeAliasId id => exact .ok _
  | computeNftId id => exact .ok _
  | computeFoundryId address serialNumber kind => exact .reported fun _ => rfl
  | computeOutputId transactionId index => exact .reported fun _ => rfl
  | buildOutput draft => exact .reported fun _ => rfl
  | packOutput o => exact .reported fun _ => rfl
  | unpackOutput bytes =>
    exact .mapError (.map (Output.decode_not_aborts bytes) _) fun _ he => he
  | minimumStorageDeposit o => exact .reported fun _ => rfl
  | getProtocolParameters => exact .ok _
  | setProtocolParameters p => exact .ok _
  | hexToBech32 hex hrp => exact hexToBech32_proper (hm hex hrp rfl) _
  | bech32ToHex bech32 =>
    exact .mapError (.map (Address.ofBech32_not_aborts bech32) _) fun _ he => he

theorem answer_of_proper {h : Handler} {choice : Nat} {m : Message}
    (hproper : FailsWith (fun e => e.aborts = false) (h.perform choice m).1) :
    ∃ response next, h.answer choice m = .answered response next := by
  unfold answer
  generalize h.perform choice m = performed at hproper
  obtain ⟨result, next⟩ := performed
  cases result with
  | ok response => exact ⟨response, next, rfl⟩
  | error e =>
    have haborts : e.aborts = false := hproper e rfl
    refine ⟨.error ⟨m.operation.name, e.message⟩, next, ?_⟩
    show (if e.aborts = true then _ else _) = _
    rw [haborts]
    rfl

theorem answer_lone_wide (h : Handler) (choice : Nat) {hex : String} (hhex : Hex.LoneWide hex)
    (hrp : Option String) :
    h.answer choice (.hexToBech32 hex hrp) = .aborted (some .hexToBech32) := by
  have hread : (Identifier.ofText hex : Except DecodingError Ed25519Address) =
      .error (.invalidHex IdKind.ed25519.label .abort) := by
    unfold Identifier.ofText decodeExactHex
    rw [Hex.decode_eq_abort.2 hhex]
    rfl
  simp only [answer, perform, hread]
  rfl

/-- A message has no answer if and only if it asks for the bech32 text of a hash whose own text is
one character of several bytes. -/
theorem answer_eq_aborted {h : Handler} {choice : Nat} {m : Message} :
    (∃ operation, h.answer choice m = .aborted operation) ↔
      ∃ hex hrp, m = .hexToBech32 hex hrp ∧ Hex.LoneWide hex := by
  constructor
  · rintro ⟨operation, haborted⟩
    apply Classical.byContradiction
    intro hnone
    obtain ⟨response, next, hanswered⟩ := answer_of_proper (perform_proper h choice (m := m)
      fun hex hrp heq hhex => hnone ⟨hex, hrp, heq, hhex⟩)
    rw [hanswered] at haborted
    cases haborted
  · rintro ⟨hex, hrp, rfl, hhex⟩
    exact ⟨_, answer_lone_wide h choice hhex hrp⟩

/-! ## JSON -/

theorem answerJson_of_ok {h : Handler} {choice : Nat} {j : Json} {m : Message}
    (hread : (fromWire j : Except JsonError Message) = .ok m) :
    h.answerJson choice j = h.answer choice m := by
  simp only [answerJson, hread]

theorem answerJson_of_error {h : Handler} {choice : Nat} {j : Json} {e : JsonError}
    (hread : (fromWire j : Except JsonError Message) = .error e) :
    h.answerJson choice j = if e.aborts then .aborted none else .answered (malformed e) h := by
  simp only [answerJson, hread]

/-- Reading hexadecimal text comes to no outcome: while the value is read as a message, or of the hash
that the message asks to be written in bech32. -/
def Unanswerable (j : Json) : Prop :=
  (∃ e, (fromWire j : Except JsonError Message) = .error e ∧ e.aborts = true) ∨
    ∃ hex hrp, fromWire j = .ok (Message.hexToBech32 hex hrp) ∧ Hex.LoneWide hex

/-- A value has no answer if and only if reading it comes to no outcome, or what it reads as is a
message that has none. -/
theorem answerJson_eq_aborted {h : Handler} {choice : Nat} {j : Json} :
    (∃ operation, h.answerJson choice j = .aborted operation) ↔ Unanswerable j := by
  unfold Unanswerable
  cases hread : (fromWire j : Except JsonError Message) with
  | ok m =>
    rw [answerJson_of_ok hread, answer_eq_aborted]
    constructor
    · rintro ⟨hex, hrp, rfl, hhex⟩
      exact .inr ⟨hex, hrp, rfl, hhex⟩
    · rintro (⟨e, he, -⟩ | ⟨hex, hrp, heq, hhex⟩)
      · cases he
      · exact ⟨hex, hrp, Except.ok.inj heq, hhex⟩
  | error e =>
    rw [answerJson_of_error hread]
    constructor
    · rintro ⟨operation, haborted⟩
      split at haborted
      · next haborts => exact .inl ⟨e, rfl, haborts⟩
      · cases haborted
    · rintro (⟨e', he', haborts⟩ | ⟨hex, hrp, heq, -⟩)
      · cases he'
        exact ⟨none, by rw [if_pos haborts]⟩
      · cases heq

theorem answerJson_eq_answered {h : Handler} {choice : Nat} {j : Json} :
    (∃ response next, h.answerJson choice j = .answered response next) ↔ ¬ Unanswerable j := by
  rw [← @answerJson_eq_aborted h choice j]
  cases h.answerJson choice j with
  | answered response next =>
    refine iff_of_true ⟨response, next, rfl⟩ ?_
    rintro ⟨operation, haborted⟩
    cases haborted
  | aborted operation =>
    refine iff_of_false ?_ fun hnone => hnone ⟨operation, rfl⟩
    rintro ⟨response, next, hanswered⟩
    cases hanswered

/-- What has no answer holds a text that is one character of several bytes. -/
theorem not_unanswerable_of_tame {j : Json} (hj : j.Tame) : ¬ Unanswerable j := by
  rintro (⟨e, hread, haborts⟩ | ⟨hex, hrp, hread, hhex⟩)
  · have hproper : e.aborts = false := ConcludingWire.concludes j hj e hread
    rw [hproper] at haborts
    cases haborts
  · exact Message.not_loneWide_of_ofJson hj hread hhex

/-- A run comes to its end if and only if every request in it has an answer. -/
theorem length_responses_eq_iff (h : Handler) (choices : Nat → Nat) (js : List Json) :
    (h.responses choices (js.map Request.json)).length = js.length ↔
      ∀ j ∈ js, ¬ Unanswerable j := by
  induction js generalizing h choices with
  | nil => exact iff_of_true rfl fun _ hj => absurd hj List.not_mem_nil
  | cons j rest ih =>
    rw [List.forall_mem_cons, List.map_cons, responses]
    cases houtcome : h.respond (choices 0) (.json j) with
    | answered response next =>
      have hj : ¬ Unanswerable j := answerJson_eq_answered.1 ⟨response, next, houtcome⟩
      simp only [List.length_cons, Nat.add_right_cancel_iff, ih next, hj, not_false_eq_true,
        true_and]
    | aborted operation =>
      have hj : Unanswerable j := answerJson_eq_aborted.1 ⟨operation, houtcome⟩
      exact iff_of_false (Nat.succ_ne_zero _).symm fun hrest => hrest.1 hj

/-- Whatever a handler remembers, and whichever parameters are in force, it answers a value if and
only if reading hexadecimal text in it comes to an outcome, and a run of values to its end if and only
if that holds of each. It is so for every value without a text that is one character of several bytes,
malformed or not. -/
theorem answered_without_lone_wide_text (h : Handler) (choices : Nat → Nat) (js : List Json) :
    (∀ j choice, (∃ response next, h.answerJson choice j = .answered response next) ↔
      ¬ Unanswerable j) ∧
    ((h.responses choices (js.map Request.json)).length = js.length ↔
      ∀ j ∈ js, ¬ Unanswerable j) ∧
    ((∀ j ∈ js, ∀ text ∈ j.texts, ¬ Hex.LoneWide text) →
      (∀ j ∈ js, ∀ choice, ∃ response next, h.answerJson choice j = .answered response next) ∧
        (h.responses choices (js.map Request.json)).length = js.length) := by
  refine ⟨fun _ _ => answerJson_eq_answered, length_responses_eq_iff h choices js, fun hjs => ?_⟩
  have hanswerable : ∀ j ∈ js, ¬ Unanswerable j := fun j hj => not_unanswerable_of_tame (hjs j hj)
  exact ⟨fun j hj _ => answerJson_eq_answered.2 (hanswerable j hj),
    (length_responses_eq_iff h choices js).2 hanswerable⟩

/-- An empty hash is malformed, and answered, and so is the request behind it. -/
theorem answered_without_lone_wide_text_empty_hash :
    ((start .shimmer 1).responses (fun _ => 0)
      ([object [("data", object [("hex", string "0x")]), ("name", string "hexToBech32")],
        object [("name", string "getProtocolParameters")]].map Request.json)).length = 2 := by
  refine ((answered_without_lone_wide_text (start .shimmer 1) (fun _ => 0)
    [object [("data", object [("hex", string "0x")]), ("name", string "hexToBech32")],
      object [("name", string "getProtocolParameters")]]).2.2 fun j hj text htext => ?_).2
  have hlength : text.toList.length ≠ 1 := by
    have htexts : text = "0x" ∨ text = "hexToBech32" ∨ text = "getProtocolParameters" := by
      simp only [List.mem_cons, List.not_mem_nil, or_false] at hj
      rcases hj with rfl | rfl
      · have h : text = "0x" ∨ text = "hexToBech32" := by simpa [texts, fieldTexts] using htext
        exact h.imp_right .inl
      · exact .inr (.inr (by simpa [texts, fieldTexts] using htext))
    rcases htexts with rfl | rfl | rfl <;> decide
  rintro ⟨c, hc, -⟩
  exact hlength (by rw [hc]; rfl)

/-- The condition cannot be dropped: a handler that has answered nothing yet comes to no outcome on
a hash of one character of two bytes. -/
theorem not_every_value_answered :
    ¬ ∀ (p : ProtocolParameters) (capacity choice : Nat) (j : Json),
      ∃ response next, (start p capacity).answerJson choice j = .answered response next := by
  intro hall
  obtain ⟨response, next, hanswered⟩ := hall .shimmer 4096 0
    (object [("data", object [("hex", string "é")]), ("name", string "hexToBech32")])
  have hread : (fromWire (object [("data", object [("hex", string "é")]),
      ("name", string "hexToBech32")]) : Except JsonError Message) =
        .ok (.hexToBech32 "é" none) := by rfl
  have hwide : Hex.LoneWide "é" := ⟨'é', by decide, by decide⟩
  rw [answerJson_of_ok hread, answer_lone_wide _ _ hwide] at hanswered
  cases hanswered

end Handler

end UtxoCodec
