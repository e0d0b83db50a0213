import GameShelf.Backend.Server
import GameShelf.Client.Dialogue
import GameShelf.Client.Identity

/-!
# Partners for a rehearsal

A rehearsal holds dialogues with partners that play a part: a provider of credentials that
answers from a script, and a server that answers from a script or is the backend itself.

* `Rehearsal.Script`: answers in order, the last of which repeats.
* `Rehearsal.Provider`: who answers for credentials.
* `Rehearsal.Peer`: who answers exchanges.

Delays are in nanoseconds, like all spans of time.
-/

namespace GameShelf.Rehearsal

/-! ## Credentials -/

/-- An answer that comes after a delay. -/
structure Cue (α : Type) where
  answer : α
  delay : Nat

/-- Answers in order. The last one repeats. -/
abbrev Script := List (Cue CredentialAnswer)

/-- The next answer of a script and what is left of it. -/
def nextCue : Script → Cue CredentialAnswer × Script
  | [] => (⟨.error ⟨"no scripted credential"⟩, 0⟩, [])
  | [cue] => (cue, [cue])
  | cue :: rest => (cue, rest)

/-- Who answers for credentials. A script counts how often it is asked. -/
inductive Provider where
  | fixed (identity : Identity)
  | scripted (get refresh : Script) (gets refreshes : Nat)

namespace Provider

/-- Asks for the current credential. -/
def get : Provider → Cue CredentialAnswer × Provider
  | .fixed identity => (⟨identity.answer, 0⟩, .fixed identity)
  | .scripted current new gets refreshes =>
    let (cue, rest) := nextCue current
    (cue, .scripted rest new (gets + 1) refreshes)

/-- Asks for a new credential. -/
def refresh : Provider → Cue CredentialAnswer × Provider
  | .fixed identity => (⟨identity.answer, 0⟩, .fixed identity)
  | .scripted current new gets refreshes =>
    let (cue, rest) := nextCue new
    (cue, .scripted current rest gets (refreshes + 1))

/-- How often a script was asked for the current and for a new credential. -/
def counts? : Provider → Option (Nat × Nat)
  | .fixed _ => none
  | .scripted _ _ gets refreshes => some (gets, refreshes)

end Provider

/-! ## Exchanges -/

/-- Who answers exchanges. -/
inductive Peer where
  /-- Replies and failures in order. -/
  | scripted (cues : List (Cue (Except TransportFailure Reply)))
  /-- The backend, reached under a base address. -/
  | backend (base : String) (server : Backend.Server)

/-- A request as it arrives at the backend. -/
def arriving (base : String) (request : WireRequest) : Backend.Request where
  method := request.method.text
  path := String.ofList (request.address.toList.drop base.length)
  authorization := request.headers.value? "authorization"
  contentType := request.headers.value? "content-type"
  body := request.body.getD .empty

/-- The answer of the backend as a reply. -/
def replyOf (answer : Backend.Answer) : Reply where
  status := answer.status
  body := (answer.body.map Json.write).getD ""

/-- Takes a request. The answer comes after a delay. -/
def Peer.take (request : WireRequest) : Peer → Cue (Except TransportFailure Reply) × Peer
  | .scripted [] => (⟨.error (.unreachable "no scripted reply"), 0⟩, .scripted [])
  | .scripted (cue :: rest) => (cue, .scripted rest)
  | .backend base server =>
    let (answer, server) := server.handle (arriving base request)
    (⟨.ok (replyOf answer), 0⟩, .backend base server)

/-- How an exchange ends and when, given that it must not take longer than a timeout. An answer
at the last moment counts. -/
def settle (timeout : Nat) (cue : Cue (Except TransportFailure Reply)) : Cue Outcome :=
  if cue.delay ≤ timeout then
    match cue.answer with
    | .ok reply => ⟨.reply reply, cue.delay⟩
    | .error failure => ⟨.failed failure, cue.delay⟩
  else ⟨.elapsed, timeout⟩

end GameShelf.Rehearsal
