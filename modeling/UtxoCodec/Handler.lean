import UtxoCodec.Derivation.Cache
import UtxoCodec.Response

/-!
# Answering messages

A handler holds the protocol parameters in force and the derivations remembered. Answering a message
gives a response and the handler for the next message; every failure is answered by an error response.
Each step takes a number that says which entry a full map gives up.

There is no answer, and no next handler, if reading hexadecimal text comes to no outcome
(`Error.aborts`).
-/

namespace UtxoCodec

/-- Protocol parameters in force and derivations remembered. -/
structure Handler where
  parameters : ProtocolParameters
  cache : DerivationCache

namespace Handler

/-- A handler that has answered nothing yet. -/
def start (parameters : ProtocolParameters) (capacity : Nat) : Handler :=
  ⟨parameters, .empty capacity⟩

/-- Carries out a message. -/
def perform (h : Handler) (choice : Nat) : Message → Except Error Response × Handler
  | .computeAliasId id =>
    let (aliasId, cache) := h.cache.aliasId choice id
    (.ok (.computeAliasId aliasId), { h with cache })
  | .computeNftId id =>
    let (nftId, cache) := h.cache.nftId choice id
    (.ok (.computeNftId nftId), { h with cache })
  | .computeFoundryId address serialNumber kind =>
    let (result, cache) := h.cache.foundryId choice address serialNumber kind
    ((result.map .computeFoundryId).mapError .input, { h with cache })
  | .computeOutputId transactionId index =>
    (((outputIdAt transactionId index).map .computeOutputId).mapError .input, h)
  | .buildOutput draft =>
    (((draft.finish h.parameters).map (.buildOutput draft.kind)).mapError .encoding, h)
  | .packOutput o => ((o.encode.map .packOutput).mapError .encoding, h)
  | .unpackOutput bytes => (((Output.decode bytes).map .unpackOutput).mapError .decoding, h)
  | .minimumStorageDeposit o =>
    (((h.parameters.rentStructure.rentCost o).map
      fun cost => .minimumStorageDeposit (.ofUInt64 cost)).mapError .encoding, h)
  | .getProtocolParameters => (.ok (.protocolParameters h.parameters), h)
  | .setProtocolParameters parameters =>
    (.ok (.protocolParameters parameters), { h with parameters })
  | .hexToBech32 hex hrp =>
    let result := do
      let hash : Ed25519Address ← (Identifier.ofText hex).mapError Error.decoding
      let readable := hrp.getD h.parameters.bech32Hrp
      let bech32 ← ((Address.ed25519 hash).toBech32 readable).mapError Error.encoding
      return Response.hexToBech32 bech32
    (result, h)
  | .bech32ToHex bech32 =>
    (((Address.ofBech32 bech32).map fun (_, address) => .bech32ToHex address.idText).mapError
      .decoding, h)

/-- The outcome of a request: an answer and the next handler, or none. Then the operation is known,
unless it is the message that could not be read. -/
inductive Outcome where
  | answered (response : Response) (next : Handler)
  | aborted (operation : Option Operation)

/-- Answers a message. -/
def answer (h : Handler) (choice : Nat) (m : Message) : Outcome :=
  match h.perform choice m with
  | (.ok response, next) => .answered response next
  | (.error e, next) =>
    if e.aborts then .aborted (some m.operation)
    else .answered (.error ⟨m.operation.name, e.message⟩) next

/-- The report of a request that is no message. -/
def malformed (e : JsonError) : Response := .error ⟨"parseMessage", e.message⟩

/-- Answers a message given as JSON. -/
def answerJson (h : Handler) (choice : Nat) (j : Json) : Outcome :=
  match (fromWire j : Except JsonError Message) with
  | .ok m => h.answer choice m
  | .error e => if e.aborts then .aborted none else .answered (malformed e) h

/-- Answers messages one after the other, without a choice to make. None if there is one that has no
answer. -/
def answerAll? (h : Handler) : List Json → Option (List Response)
  | [] => some []
  | j :: rest =>
    match h.answerJson 0 j with
    | .answered response next => (next.answerAll? rest).map (response :: ·)
    | .aborted _ => none

end Handler

end UtxoCodec
