import GameShelf.Client.Http

/-!
# One refresh at a time

Several requests may find at the same time that their credential is no good. The gate lets one
of them ask the provider for a new credential; the ones that queue up meanwhile get the answer
that it brings. A caller that comes later asks anew.

* `Gate`: the state that the callers share.
* `Gate.arrive`: a caller comes and notes how many refreshes are over.
* `Gate.enter?`: the caller at the head of the queue goes in while nobody is inside. It leaves
  with the latest answer if a refresh ended since it came, else it asks the provider.
* `Gate.finish?`: the provider answers the caller that is inside.

Callers go in in the order in which they came.

## Terms

These go by other names in the interface of the service:

* `Gate`: `SingleFlightIdentity`, which has a provider behind it.
* `Gate.arrive`, `Gate.enter?`, `Gate.finish?`: the steps of its `refresh_credential`.
-/

namespace GameShelf

/-- What a provider of credentials answers. -/
abbrev CredentialAnswer := Except Unavailable Credential

namespace RefreshGate

/-- A caller, with the count of refreshes that were over when it came. -/
structure Ticket where
  caller : Nat
  observed : UInt64
deriving DecidableEq, Repr

/-- The state of a gate. -/
structure Gate where
  /-- How many refreshes are over, as a word. -/
  generation : UInt64
  /-- What the last of them brought. -/
  latest : Option CredentialAnswer
  /-- Who waits for the provider. -/
  inside : Option Ticket
  /-- Who waits to go in, first come first. -/
  queue : List Ticket

/-- What happens when a caller goes in. -/
inductive Entrance where
  /-- It asks the provider. -/
  | asks (caller : Nat)
  /-- It leaves with an answer that came since it arrived. -/
  | reuses (caller : Nat) (answer : CredentialAnswer)

namespace Gate

/-- The gate before the first caller. -/
def opened : Gate where
  generation := 0
  latest := none
  inside := none
  queue := []

/-- A caller comes. -/
def arrive (gate : Gate) (caller : Nat) : Gate :=
  { gate with queue := gate.queue ++ [⟨caller, gate.generation⟩] }

/-- The answer that came since a caller arrived. -/
def answerSince? (gate : Gate) (ticket : Ticket) : Option CredentialAnswer :=
  if gate.generation = ticket.observed then none else gate.latest

/-- The caller at the head of the queue goes in, if nobody is inside. -/
def enter? (gate : Gate) : Option (Entrance × Gate) :=
  match gate.inside, gate.queue with
  | none, ticket :: rest =>
    match gate.answerSince? ticket with
    | some answer => some (.reuses ticket.caller answer, { gate with queue := rest })
    | none => some (.asks ticket.caller, { gate with inside := some ticket, queue := rest })
  | _, _ => none

/-- The provider answers the caller that is inside, who leaves with the answer. -/
def finish? (gate : Gate) (answer : CredentialAnswer) : Option (Nat × Gate) :=
  gate.inside.map fun ticket =>
    (ticket.caller,
      { gate with
        generation := gate.generation + 1
        latest := some answer
        inside := none })

end Gate

/-- The record of a caller that takes the answer of another's refresh. -/
def reuseRecord : LogRecord where
  level := .debug
  fields := [("message", .text "reusing in-flight credential refresh")]

end RefreshGate

end GameShelf
