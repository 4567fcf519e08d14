import UtxoCodec.Service
import UtxoCodec.Proofs.Handler.Contract
import UtxoCodec.Proofs.Json.Printed
import UtxoCodec.Proofs.Json.Unambiguous

/-!
# Line framing of the service

Every line of the input that is not blank gives one line of output, as long as reading hexadecimal
text comes to an outcome (`Stops`). The invariant of a run is that the handler is `Ready`: what it
remembers is right and the parameters in force survive being sent as JSON. A step answers a line as
its response under the parameters in force and keeps the invariant (`answerLine_of_ready`); the run
follows by induction.

A line of output is JSON by the grammar, of its response and of no other value, and so has no newline
in it. That, and that a response is read back, does not depend on the words in which a line is reported
that is no message (`Rewords`). Main statement: `one_line_for_each_message`.
-/

namespace UtxoCodec

open Outcome

/-! ## Responses that read back -/

theorem outputIdAt_survives {transactionId : TransactionId} {index : UInt16} {id : OutputId}
    (h : outputIdAt transactionId index = .ok id) : Survives id := by
  obtain ⟨hv, rfl⟩ := check_eq_ok.1 (mapError_eq_ok.1 h)
  exact OutputId.survives hv

theorem ProtocolParameters.survives_shimmer : Survives shimmer := by
  have hnothing (α : Type) (r : Json.Record α) : r.ExtraFields [] :=
    ⟨.nil, trivial, fun key hkey => absurd hkey List.not_mem_nil⟩
  exact survives (RentStructure.survives (hnothing ..)) (hnothing ..)

namespace Handler

/-- What is remembered is right, and the parameters in force survive. -/
structure Ready (h : Handler) : Prop where
  sound : h.cache.Sound
  survives : Survives h.parameters

variable {h next : Handler} {choice : Nat} {m : Message} {response : Response}

theorem payloadSurvives_of_perform (hready : h.Ready) (hm : m.ArgumentsSurvive)
    (hok : (h.perform choice m).1 = .ok response) : response.PayloadSurvives := by
  cases fulfils_of_perform hok with
  | computeOutputId transactionId index id =>
    obtain ⟨id', hid, heq⟩ := map_eq_ok.1 (mapError_eq_ok.1 hok)
    cases heq
    exact outputIdAt_survives hid
  | buildOutput draft o finished => exact Output.survives_of_verify (Draft.verify_of_finish finished)
  | unpackOutput bytes o decoded =>
    exact Output.survives_of_verify (Output.decode_eq_ok.1 decoded).1
  | getProtocolParameters => exact hready.survives
  | setProtocolParameters p => exact hm
  | _ => trivial

theorem ready_perform (hready : h.Ready) (hm : m.ArgumentsSurvive) :
    (h.perform choice m).2.Ready where
  sound := sound_perform hready.sound choice m
  survives := by
    cases m with
    | setProtocolParameters p => exact hm
    | _ => exact hready.survives

/-- The answer to a value that was read from text is read back, and so are those behind it. -/
theorem answerJson_of_ready (hready : h.Ready) {j : Json} (hj : j.Canonical)
    (hanswer : h.answerJson choice j = .answered response next) :
    response.PayloadSurvives ∧ next.Ready := by
  cases hread : (fromWire j : Except JsonError Message) with
  | error e =>
    rw [answerJson_of_error hread] at hanswer
    split at hanswer
    · cases hanswer
    · cases hanswer
      exact ⟨trivial, hready⟩
  | ok m =>
    have hm : m.ArgumentsSurvive := Message.argumentsSurvive_of_ofJson hj hread
    rw [answerJson_of_ok hread] at hanswer
    rcases answer_eq_answered hanswer with ⟨hok, rfl⟩ | ⟨rfl, e, rfl⟩
    · exact ⟨payloadSurvives_of_perform hready hm hok, ready_perform hready hm⟩
    · exact ⟨trivial, hready⟩

end Handler

namespace Service

/-! ## Lines -/

/-- The value on a line; none if the line is not JSON. -/
def request? (line : List Char) : Option Request :=
  (Json.parse? (String.ofList line)).map .json

/-- The response to a line under given parameters. A line that is not JSON is reported as such. -/
def reply? (p : ProtocolParameters) (line : List Char) : Option Response :=
  match request? line with
  | some q => Handler.reply? p q
  | none => some (Handler.malformed .notJson)

/-- The parameters in force behind lines. -/
def inForce (p : ProtocolParameters) (lines : List (List Char)) : ProtocolParameters :=
  Handler.inForce p (lines.filterMap request?)

/-- The line holds a value on which reading hexadecimal text comes to no outcome, either in reading
the value as a message or in carrying out the message. -/
def Stops (line : List Char) : Prop :=
  ∃ j, Json.parse? (String.ofList line) = some j ∧ Handler.Unanswerable j

theorem not_stops_of_error {line : List Char} {j : Json} {e : JsonError}
    (hparse : Json.parse? (String.ofList line) = some j)
    (hread : (fromWire j : Except JsonError Message) = .error e) (haborts : e.aborts = false) :
    ¬ Stops line := by
  rintro ⟨j', hj', hstops⟩
  obtain rfl : j = j' := Option.some.inj (hparse.symm.trans hj')
  rcases hstops with ⟨e', herror, haborts'⟩ | ⟨hex, hrp, hmessage, -⟩
  · rw [hread] at herror
    cases herror
    rw [haborts] at haborts'
    cases haborts'
  · rw [hread] at hmessage
    cases hmessage

/-- A message stops the service only if it asks for the bech32 text of a hash. -/
theorem not_stops_of_message {line : List Char} {j : Json} {m : Message}
    (hparse : Json.parse? (String.ofList line) = some j) (hread : fromWire j = .ok m)
    (hm : ∀ hex hrp, m ≠ .hexToBech32 hex hrp) : ¬ Stops line := by
  rintro ⟨j', hj', haborts⟩
  obtain rfl : j = j' := Option.some.inj (hparse.symm.trans hj')
  rcases haborts with ⟨e, herror, -⟩ | ⟨hex, hrp, hmessage, -⟩
  · rw [hread] at herror
    cases herror
  · rw [hread] at hmessage
    exact hm hex hrp (Except.ok.inj hmessage)

/-- The lines of a text that are not blank. -/
def messageLines (text : String) : List (List Char) :=
  (text.toList.splitOn '\n').filter fun line => ¬ Text.isBlank line

theorem lines_eq_splitOn (cs : List Char) : Text.lines cs = cs.splitOn '\n' := by
  induction cs with
  | nil => rfl
  | cons c rest ih =>
    rw [Text.lines, List.splitOn_cons_eq_if_modifyHead, ← ih]
    by_cases hc : c = '\n'
    · rw [if_pos hc, if_pos (beq_iff_eq.2 hc)]
    · rw [if_neg hc, if_neg (mt beq_iff_eq.1 hc)]
      cases hlines : Text.lines rest with
      | nil =>
        rw [ih] at hlines
        exact absurd hlines (List.splitOn_ne_nil _ _)
      | cons line more => rfl

/-- A blank line gives nothing and changes nothing. -/
theorem answerText_eq (h : Handler) (text : String) :
    answerText h text = answerLines h (messageLines text) := by
  have hskip (lines : List (List Char)) :
      answerLines h lines = answerLines h (lines.filter fun line => ¬ Text.isBlank line) := by
    induction lines generalizing h with
    | nil => rfl
    | cons line rest ih =>
      cases hblank : Text.isBlank line with
      | true =>
        rw [List.filter_cons_of_neg (by simp [hblank]), ← ih, answerLines, answerLine, hblank]
        rfl
      | false =>
        rw [List.filter_cons_of_pos (by simp [hblank]), answerLines, answerLines]
        split
        · exact ih h
        · next response next _ => rw [ih next]
        · rfl
  rw [answerText, lines_eq_splitOn, hskip]
  rfl

/-! ## One line -/

/-- A line that is neither blank nor without outcome is answered as without memory, the answer is
read back, and so are those to the lines behind it. -/
theorem answerLine_of_ready {h : Handler} (hready : h.Ready) {line : List Char}
    (hblank : Text.isBlank line = false) (hstops : ¬ Stops line) (choice : Nat) :
    ∃ response next, answerLine h choice line = .answered response next ∧
      reply? h.parameters line = some response ∧ response.PayloadSurvives ∧ next.Ready ∧
      ∀ rest, inForce h.parameters (line :: rest) = inForce next.parameters rest := by
  unfold answerLine reply? inForce
  rw [hblank]
  cases hparse : Json.parse? (String.ofList line) with
  | none =>
    have hrequest : request? line = none := by rw [request?, hparse]; rfl
    refine ⟨Handler.malformed .notJson, h, rfl, ?_, trivial, hready, fun rest => ?_⟩
    · rw [hrequest]
    · rw [List.filterMap_cons_none hrequest]
  | some j =>
    have hrequest : request? line = some (.json j) := by rw [request?, hparse]; rfl
    have hfollows : Handler.Follows h.parameters (.json j) (h.answerJson choice j) :=
      Handler.respond_follows hready.sound choice (.json j)
    cases houtcome : h.answerJson choice j with
    | aborted operation =>
      have haborted := Handler.answerJson_eq_aborted.1 ⟨operation, houtcome⟩
      exact absurd ⟨j, hparse, haborted⟩ hstops
    | answered response next =>
      obtain ⟨hsurvives, hnext⟩ :=
        Handler.answerJson_of_ready hready (Json.canonical_of_parse hparse) houtcome
      rw [houtcome] at hfollows
      cases hfollows with
      | answered _ _ reply _ parameters =>
        refine ⟨response, next, ?_, ?_, hsurvives, hnext, fun rest => ?_⟩
        · simp only [houtcome]
          rfl
        · rw [hrequest]
          exact reply
        · rw [List.filterMap_cons_some hrequest, Handler.inForce_cons, parameters]

/-! ## Runs -/

theorem answerLines_of_ready {h : Handler} (hready : h.Ready) {lines : List (List Char)}
    (hblank : ∀ line ∈ lines, Text.isBlank line = false) (hstops : ∀ line ∈ lines, ¬ Stops line) :
    ∃ responses : List Response,
      answerLines h lines = (responses.map outputLine, .complete) ∧
      responses.map some =
        (lines.mapIdx fun i line => reply? (inForce h.parameters (lines.take i)) line) ∧
      ∀ response ∈ responses, response.PayloadSurvives := by
  induction lines generalizing h with
  | nil => exact ⟨[], rfl, rfl, fun _ hmem => absurd hmem List.not_mem_nil⟩
  | cons line rest ih =>
    obtain ⟨hblank₀, hblank⟩ := List.forall_mem_cons.1 hblank
    obtain ⟨hstops₀, hstops⟩ := List.forall_mem_cons.1 hstops
    obtain ⟨response, next, hanswer, hreply, hsurvives, hnext, hforce⟩ :=
      answerLine_of_ready hready hblank₀ hstops₀ 0
    obtain ⟨responses, hlines, hreplies, hrest⟩ := ih hnext hblank hstops
    refine ⟨response :: responses, ?_, ?_, List.forall_mem_cons.2 ⟨hsurvives, hrest⟩⟩
    · rw [answerLines, hanswer]
      dsimp only
      rw [hlines]
      rfl
    · rw [List.mapIdx_cons, List.map_cons, hreplies]
      simp only [List.take_succ_cons, hforce]
      show some response :: _ = reply? h.parameters line :: _
      rw [hreply]

/-! ## Bytes -/

/-- The byte that ends a line. -/
def newline : UInt8 := 10

/-- The bytes of lines of output, each ended by a newline. -/
def written (lines : List String) : Bytes :=
  lines.flatMap fun line => Bytes.ofChars line.toList ++ [newline]

theorem value_outputLine (response : Response) :
    Json.Grammar.Value (outputLine response).toList (Wire.toJson response) := by
  have hchars : (outputLine response).toList = (Wire.toJson response).chars :=
    String.toList_ofList
  rw [hchars]
  exact Json.value_chars _

theorem value_outputLine_iff (response : Response) (j : Json) :
    Json.Grammar.Value (outputLine response).toList j ↔ j = Wire.toJson response := by
  constructor
  · intro hvalue
    exact hvalue.unique (value_outputLine response)
  · rintro rfl
    exact value_outputLine response

theorem newline_not_mem_outputLine (response : Response) :
    newline ∉ Bytes.ofChars (outputLine response).toList := by
  intro hmem
  have hge : 32 ≤ newline.toNat := (value_outputLine response).clear.bytes _ hmem
  revert hge
  decide

/-- Behind the last newline there is nothing. -/
theorem splitOn_written {lines : List String}
    (hlines : ∀ line ∈ lines, newline ∉ Bytes.ofChars line.toList) :
    (written lines).splitOn newline = lines.map (fun line => Bytes.ofChars line.toList) ++ [[]] := by
  induction lines with
  | nil => rfl
  | cons line rest ih =>
    obtain ⟨hline, hrest⟩ := List.forall_mem_cons.1 hlines
    have hcons : written (line :: rest) = Bytes.ofChars line.toList ++ newline :: written rest := by
      simp [written]
    rw [hcons, List.splitOn_append_cons_self_of_not_mem hline, ih hrest]
    rfl

/-! ## Wording -/

/-- The same response, or the report of a line that is no message in other words. -/
inductive Rewords : Response → Response → Prop where
  | same (response : Response) : Rewords response response
  | malformed (said other : String) :
    Rewords (.error ⟨"parseMessage", said⟩) (.error ⟨"parseMessage", other⟩)

theorem Rewords.payloadSurvives {response other : Response} (h : Rewords response other)
    (hsurvives : response.PayloadSurvives) : other.PayloadSurvives := by
  cases h with
  | same => exact hsurvives
  | malformed => trivial

theorem payloadSurvives_of_rewords {responses shown : List Response}
    (h : List.Forall₂ Rewords responses shown) (hsurvive : ∀ r ∈ responses, r.PayloadSurvives) :
    ∀ r ∈ shown, r.PayloadSurvives := by
  induction h with
  | nil => exact hsurvive
  | cons hrewords _ ih =>
    obtain ⟨hfirst, hrest⟩ := List.forall_mem_cons.1 hsurvive
    exact List.forall_mem_cons.2 ⟨hrewords.payloadSurvives hfirst, ih hrest⟩

/-! ## The service -/

/-- Whatever the parameters are that a service starts with, as long as they are the default ones or
were read from JSON, and whatever room there is for derivations: a text none of whose lines stops it
is answered to the end. Each line that is not blank gives one line of output, in the order of the
input, with the response to it under the parameters in force.

The messages of errors in reading JSON are abbreviated here. So the bytes are those of any `shown`
that differ from the responses in the words for a line that is no message, the responses themselves
among them: they are these lines with a newline behind each, every line is compact JSON of its
response and of nothing else and has no newline in it, and every response is read back. -/
theorem one_line_for_each_message (p : ProtocolParameters)
    (hp : p = .shimmer ∨ ∃ j : Json, j.Canonical ∧ fromWire j = .ok p) (capacity : Nat)
    (text : String) (hstops : ∀ line ∈ messageLines text, ¬ Stops line) :
    ∃ responses : List Response,
      Report.ofInput (.start p capacity) (some text) =
        ⟨successCode, responses.map outputLine, []⟩ ∧
      responses.map some = ((messageLines text).mapIdx fun i line =>
        reply? (inForce p ((messageLines text).take i)) line) ∧
      ∀ shown, List.Forall₂ Rewords responses shown →
        (written (shown.map outputLine)).splitOn newline =
          shown.map (fun response => Bytes.ofChars (outputLine response).toList) ++ [[]] ∧
        ∀ response ∈ shown,
          (∀ j, Json.Grammar.Value (outputLine response).toList j ↔ j = Wire.toJson response) ∧
          newline ∉ Bytes.ofChars (outputLine response).toList ∧
          Response.ofEnvelope (toWire response) = .ok response := by
  have hsurvives : Survives p := by
    rcases hp with rfl | ⟨j, hj, hread⟩
    · exact ProtocolParameters.survives_shimmer
    · exact LawfulWire.survives_of_ofJson hj hread
  have hready : (Handler.start p capacity).Ready := ⟨DerivationCache.sound_empty capacity, hsurvives⟩
  have hblank : ∀ line ∈ messageLines text, Text.isBlank line = false := by
    intro line hline
    simpa using (List.mem_filter.1 hline).2
  obtain ⟨responses, hlines, hreplies, hpayloads⟩ := answerLines_of_ready hready hblank hstops
  refine ⟨responses, ?_, hreplies, fun shown hshown => ⟨?_, fun response hmem => ?_⟩⟩
  · rw [Report.ofInput, answerText_eq, hlines]
  · have hclear : ∀ line ∈ shown.map outputLine, newline ∉ Bytes.ofChars line.toList := by
      intro line hline
      obtain ⟨response, -, rfl⟩ := List.mem_map.1 hline
      exact newline_not_mem_outputLine response
    rw [splitOn_written hclear, List.map_map, Function.comp_def]
  · have hpayload := payloadSurvives_of_rewords hshown hpayloads response hmem
    exact ⟨value_outputLine_iff response, newline_not_mem_outputLine response,
      Response.ofEnvelope_toJson hpayload⟩

/-- A name that is a newline is repeated in the report of the first line, and is escaped there; the
blank line is skipped. The report is shown in full, with the names that are known. -/
theorem one_line_for_each_message_around_blank_line :
    let text := "\x7b\"name\":\"\\n\"\x7d\n \n\x7b\"name\":\"getProtocolParameters\"\x7d\n"
    let responses := [Handler.malformed (.unknownName "\n"), .protocolParameters .shimmer]
    let names := ", ".intercalate (Operation.all.map fun operation => "`" ++ operation.name ++ "`")
    let report := "invalid JSON: unknown variant `\n`, expected one of " ++ names
    let shown := [.error ⟨"parseMessage", report⟩, .protocolParameters .shimmer]
    (∀ line ∈ messageLines text, ¬ Stops line) ∧
      Report.ofInput (.start .shimmer 1) (some text) =
        ⟨successCode, responses.map outputLine, []⟩ ∧
      List.Forall₂ Rewords responses shown ∧
      (written (shown.map outputLine)).splitOn newline =
        shown.map (fun response => Bytes.ofChars (outputLine response).toList) ++ [[]] ∧
      ∀ response ∈ shown,
        (∀ j, Json.Grammar.Value (outputLine response).toList j ↔ j = Wire.toJson response) ∧
        newline ∉ Bytes.ofChars (outputLine response).toList ∧
        Response.ofEnvelope (toWire response) = .ok response := by
  intro text responses names report shown
  have hlines : messageLines text = ["\x7b\"name\":\"\\n\"\x7d".toList,
      "\x7b\"name\":\"getProtocolParameters\"\x7d".toList] := by decide +kernel
  have hfirst : Json.parse? (String.ofList "\x7b\"name\":\"\\n\"\x7d".toList) =
      some (.object [("name", .string "\n")]) := by decide +kernel
  have hsecond : Json.parse?
      (String.ofList "\x7b\"name\":\"getProtocolParameters\"\x7d".toList) =
        some (.object [("name", .string "getProtocolParameters")]) := by decide +kernel
  have herror : (fromWire (Json.object [("name", .string "\n")]) : Except JsonError Message) =
      .error (.unknownName "\n") := by rfl
  have hread : fromWire (Json.object [("name", .string "getProtocolParameters")]) =
      .ok Message.getProtocolParameters := by rfl
  have hstops : ∀ line ∈ messageLines text, ¬ Stops line := by
    rw [hlines]
    refine List.forall_mem_cons.2 ⟨not_stops_of_error hfirst herror rfl, ?_⟩
    refine List.forall_mem_singleton.2 (not_stops_of_message hsecond hread ?_)
    intro hex hrp heq
    cases heq
  obtain ⟨responses', hreport, hreplies, hshown⟩ :=
    one_line_for_each_message .shimmer (.inl rfl) 1 text hstops
  have hresponses : responses'.map some = responses.map some := by
    rw [hreplies, hlines]
    simp only [List.mapIdx_cons, List.mapIdx_nil, reply?, request?, hfirst, hsecond, inForce]
    rfl
  obtain rfl := (List.map_inj_right fun _ _ => Option.some.inj).1 hresponses
  have hrewords : List.Forall₂ Rewords responses shown :=
    .cons (.malformed ..) (.cons (.same _) .nil)
  exact ⟨hstops, hreport, hrewords, hshown shown hrewords⟩

end Service

end UtxoCodec
