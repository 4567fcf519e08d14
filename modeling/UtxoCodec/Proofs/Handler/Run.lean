import UtxoCodec.Handler
import UtxoCodec.Proofs.Derivation.Cache

/-!
# What a run of a handler depends on

A handler is given requests one after the other. Its answers are those that a handler without
memory gives under the parameters in force (`reply?`): one step keeps the remembered derivations
sound and answers as that handler does (`respond_follows`), and a run follows by induction. Main
statement: `Handler.responses_ignore_history`.
-/

namespace UtxoCodec

/-- What a handler is given: a message, or JSON that may not be one. -/
inductive Request where
  | message (m : Message)
  | json (j : Json)

namespace Request

/-- The message, or why there is none. -/
def read : Request → Except JsonError Message
  | message m => .ok m
  | json j => fromWire j

/-- The parameters that the request puts in force, if it does. -/
def installs? (q : Request) : Option ProtocolParameters :=
  match q.read with
  | .ok (.setProtocolParameters p) => some p
  | _ => none

end Request

namespace Handler

/-! ## Runs -/

/-- Answers a request. -/
def respond (h : Handler) (choice : Nat) : Request → Outcome
  | .message m => h.answer choice m
  | .json j => h.answerJson choice j

/-- The responses to requests one after the other, up to the first one that has no answer. The
choices say which entries full maps give up, step by step. -/
def responses (h : Handler) (choices : Nat → Nat) : List Request → List Response
  | [] => []
  | q :: rest =>
    match h.respond (choices 0) q with
    | .answered response next => response :: next.responses (fun i => choices (i + 1)) rest
    | .aborted _ => []

/-- The parameters in force behind requests: those put in force last, or the initial ones. -/
def inForce (initial : ProtocolParameters) (requests : List Request) : ProtocolParameters :=
  (requests.filterMap Request.installs?).getLastD initial

/-- The response to a request under given parameters: that of a handler which has answered nothing
before and remembers nothing. -/
def reply? (p : ProtocolParameters) (q : Request) : Option Response :=
  match (start p 0).respond 0 q with
  | .answered response _ => some response
  | .aborted _ => none

theorem inForce_cons (p : ProtocolParameters) (q : Request) (rest : List Request) :
    inForce p (q :: rest) = inForce (q.installs?.getD p) rest := by
  unfold inForce
  cases hq : q.installs? with
  | none => rw [List.filterMap_cons_none hq, Option.getD_none]
  | some p' => rw [List.filterMap_cons_some hq, List.getLastD_cons, Option.getD_some]

/-! ## One step -/

/-- The response carried out for a message does not depend on what is remembered. -/
theorem perform_fst {h : Handler} (hs : h.cache.Sound) (choice : Nat) (m : Message) :
    (h.perform choice m).1 = ((start h.parameters 0).perform 0 m).1 := by
  have hs₀ : (start h.parameters 0).cache.Sound := DerivationCache.sound_empty 0
  cases m with
  | computeAliasId id =>
    simp only [perform]
    rw [(hs.aliasId id).1, (hs₀.aliasId id).1]
  | computeNftId id =>
    simp only [perform]
    rw [(hs.nftId id).1, (hs₀.nftId id).1]
  | computeFoundryId address serialNumber kind =>
    simp only [perform]
    rw [(hs.foundryId ..).1, (hs₀.foundryId ..).1]
  | _ => rfl

theorem sound_perform {h : Handler} (hs : h.cache.Sound) (choice : Nat) (m : Message) :
    (h.perform choice m).2.cache.Sound := by
  cases m with
  | computeAliasId id => exact (hs.aliasId id).2
  | computeNftId id => exact (hs.nftId id).2
  | computeFoundryId address serialNumber kind => exact (hs.foundryId ..).2
  | _ => exact hs

theorem parameters_perform (h : Handler) (choice : Nat) (m : Message) :
    (h.perform choice m).2.parameters = (Request.message m).installs?.getD h.parameters := by
  cases m <;> rfl

/-- What the outcome of a request has to be: answered as without memory, with sound derivations
behind it and the parameters put in force, or without answer as there. -/
inductive Follows (p : ProtocolParameters) (q : Request) : Outcome → Prop where
  | answered (response : Response) (next : Handler) (reply : reply? p q = some response)
      (sound : next.cache.Sound) (parameters : next.parameters = q.installs?.getD p) :
      Follows p q (.answered response next)
  | aborted (operation : Option Operation) (reply : reply? p q = none) :
      Follows p q (.aborted operation)

theorem answer_follows {h : Handler} (hs : h.cache.Sound) (choice : Nat) (m : Message) :
    Follows h.parameters (.message m) (h.answer choice m) := by
  have hfst := perform_fst hs choice m
  have hsound := sound_perform hs choice m
  have hparameters := parameters_perform h choice m
  have hreply : reply? h.parameters (.message m) =
      match (start h.parameters 0).answer 0 m with
      | .answered response _ => some response
      | .aborted _ => none := rfl
  unfold answer at hreply ⊢
  generalize h.perform choice m = performed at hfst hsound hparameters ⊢
  generalize (start h.parameters 0).perform 0 m = fresh at hfst hreply
  obtain ⟨result, next⟩ := performed
  obtain ⟨result', next'⟩ := fresh
  obtain rfl : result = result' := hfst
  cases result with
  | ok response => exact .answered response next hreply hsound hparameters
  | error e =>
    dsimp only at hreply ⊢
    by_cases haborts : e.aborts = true
    · rw [if_pos haborts] at hreply ⊢
      exact .aborted _ hreply
    · rw [if_neg haborts] at hreply ⊢
      exact .answered _ next hreply hsound hparameters

theorem Follows.congr {p : ProtocolParameters} {q q' : Request} {outcome : Outcome}
    (h : Follows p q outcome) (hreply : reply? p q' = reply? p q)
    (hinstalls : q'.installs? = q.installs?) : Follows p q' outcome := by
  cases h with
  | answered response next reply sound parameters =>
    exact .answered response next (hreply.trans reply) sound (by rw [parameters, hinstalls])
  | aborted operation reply => exact .aborted operation (hreply.trans reply)

theorem respond_follows {h : Handler} (hs : h.cache.Sound) (choice : Nat) (q : Request) :
    Follows h.parameters q (h.respond choice q) := by
  cases q with
  | message m => exact answer_follows hs choice m
  | json j =>
    show Follows h.parameters (.json j) (h.answerJson choice j)
    cases hj : (fromWire j : Except JsonError Message) with
    | ok m =>
      -- a value that reads as a message is answered as the message is
      have hanswer (h : Handler) (choice : Nat) : h.answerJson choice j = h.answer choice m := by
        simp only [answerJson, hj]
      rw [hanswer]
      refine (answer_follows hs choice m).congr ?_ ?_
      · simp only [reply?, respond, hanswer]
      · simp only [Request.installs?, Request.read, hj]
    | error e =>
      have hanswer (h : Handler) (choice : Nat) : h.answerJson choice j =
          if e.aborts then .aborted none else .answered (malformed e) h := by
        simp only [answerJson, hj]
      have hinstalls : (Request.json j).installs? = none := by
        simp only [Request.installs?, Request.read, hj]
      rw [hanswer]
      by_cases haborts : e.aborts = true
      · rw [if_pos haborts]
        refine .aborted none ?_
        simp only [reply?, respond, hanswer, if_pos haborts]
      · rw [if_neg haborts]
        refine .answered _ h ?_ hs ?_
        · simp only [reply?, respond, hanswer, if_neg haborts]
        · rw [hinstalls, Option.getD_none]

/-! ## Whole runs -/

theorem responses_eq {h : Handler} (hs : h.cache.Sound) (choices : Nat → Nat)
    (requests : List Request) :
    (h.responses choices requests).map some =
      (requests.mapIdx fun i q => reply? (inForce h.parameters (requests.take i)) q).takeWhile
        Option.isSome := by
  induction requests generalizing h choices with
  | nil => rfl
  | cons q rest ih =>
    rw [List.mapIdx_cons, List.takeWhile_cons, responses]
    have hq := respond_follows hs (choices 0) q
    generalize h.respond (choices 0) q = outcome at hq
    show _ = if (reply? h.parameters q).isSome = true then _ else _
    cases hq with
    | aborted operation reply =>
      rw [reply]
      rfl
    | answered response next reply sound parameters =>
      have htail (i : Nat) :
          inForce h.parameters ((q :: rest).take (i + 1)) =
            inForce next.parameters (rest.take i) := by
        rw [List.take_succ_cons, inForce_cons, parameters]
      simp only [List.map_cons, htail]
      rw [ih sound, if_pos (by rw [reply]; rfl)]
      show some response :: _ = reply? h.parameters q :: _
      rw [reply]

/-- What is remembered and what came before cannot be told from the answers. Whatever room there is
for derivations and whichever of them are given up, handlers that start with the same parameters
answer a run of requests alike, and each response depends on the request and the parameters in force
only. -/
theorem responses_ignore_history (p : ProtocolParameters) (capacity : Nat) (choices : Nat → Nat)
    (requests : List Request) :
    (∀ capacity' choices', (start p capacity).responses choices requests =
      (start p capacity').responses choices' requests) ∧
    ((start p capacity).responses choices requests).map some =
      (requests.mapIdx fun i q => reply? (inForce p (requests.take i)) q).takeWhile
        Option.isSome := by
  have hrun (capacity : Nat) (choices : Nat → Nat) :=
    responses_eq (h := start p capacity) (DerivationCache.sound_empty capacity) choices requests
  refine ⟨fun capacity' choices' => ?_, hrun capacity choices⟩
  have hmap := (hrun capacity choices).trans (hrun capacity' choices').symm
  exact (List.map_inj_right fun _ _ => Option.some.inj).1 hmap

end Handler

end UtxoCodec
