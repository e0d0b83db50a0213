import GameShelf.Rehearsal.Basic

/-!
# Dialogues on a common clock

Several dialogues run side by side with the same partners. One that has to wait gives way to
the others. They go on in rounds: a round passes through all of them in the order in which they
were given, and each that can go on when the round comes to it does so, however long the others
have waited. The clock moves only when none of them can go on, and then straight to the next
moment at which one can.

* `Rehearsal.Part`: a dialogue, or a change of the peer behind the scenes.
* `Rehearsal.Stage`: the clock, the partners, the dialogues that wait, and what has happened.
* `Rehearsal.Stage.proceed`: runs one dialogue until it waits or ends.
* `Rehearsal.Stage.round`: one pass through the dialogues.
* `Rehearsal.Stage.perform`: plays parts until all have ended.
-/

namespace GameShelf.Rehearsal

open RefreshGate (Gate Entrance reuseRecord)

/-- What is played in a rehearsal. -/
inductive Part (α : Type) where
  | speaks (dialogue : Dialogue α)
  /-- A change of the peer that takes no time and asks nobody. -/
  | alters (change : Peer → α × Peer)

/-- What a dialogue does when it goes on. -/
inductive Suspended (α : Type) where
  /-- It begins. -/
  | begins (part : Part α)
  /-- It takes an answer about credentials. -/
  | answered (answer : CredentialAnswer) (resume : CredentialAnswer → Dialogue α)
  /-- It takes the answer of the provider inside the gate, and leaves the gate. -/
  | leavesGate (answer : CredentialAnswer) (resume : CredentialAnswer → Dialogue α)
  /-- It goes into the gate. -/
  | entersGate (resume : CredentialAnswer → Dialogue α)
  /-- It takes the end of an exchange that began at the given time. -/
  | exchanged (outcome : Outcome) (since : Nat) (resume : Outcome → Nat → Dialogue α)

/-- What a dialogue waits for. -/
inductive Awaited where
  | moment (due : Nat)
  /-- Its turn at the gate. -/
  | turn

/-- The moment that is waited for. -/
def Awaited.moment? : Awaited → Option Nat
  | .moment due => some due
  | .turn => none

/-- A dialogue that waits, and what it does then. -/
structure Waiting (α : Type) where
  dialogue : Nat
  awaited : Awaited
  next : Suspended α

/-- The result of a dialogue and the time of its end. -/
structure Ended (α : Type) where
  dialogue : Nat
  result : α
  time : Nat

/-- Dialogues on a common clock. They are numbered. -/
structure Stage (α : Type) where
  clock : Nat
  provider : Provider
  /-- The gate before the provider, if there is one. -/
  gate : Option Gate
  peer : Peer
  /-- The dialogues that wait, each once. -/
  waiting : List (Waiting α)
  ended : List (Ended α)
  entries : List Telemetry.Entry
  requests : List WireRequest

namespace Stage

variable {α : Type}

/-- A stage before anything has happened. -/
def opened (provider : Provider) (gated : Bool) (peer : Peer) : Stage α where
  clock := 0
  provider
  gate := if gated then some Gate.opened else none
  peer
  waiting := []
  ended := []
  entries := []
  requests := []

/-! ## Waiting -/

/-- A dialogue begins to wait. -/
def wait (stage : Stage α) (id : Nat) (awaited : Awaited) (next : Suspended α) : Stage α :=
  { stage with waiting := ⟨id, awaited, next⟩ :: stage.waiting }

/-- A dialogue waits until a delay is over. -/
def sleep (stage : Stage α) (id delay : Nat) (next : Suspended α) : Stage α :=
  stage.wait id (.moment (stage.clock + delay)) next

/-- Leaves an entry. -/
def note (stage : Stage α) (entry : Telemetry.Entry) : Stage α :=
  { stage with entries := stage.entries ++ [entry] }

/-- Asks the provider for a new credential. -/
def askNew (stage : Stage α) : Cue CredentialAnswer × Stage α :=
  let (cue, provider) := stage.provider.refresh
  (cue, { stage with provider })

/-- The dialogue inside the gate leaves it with an answer. -/
def leaveGate (stage : Stage α) (answer : CredentialAnswer) : Stage α :=
  match stage.gate.bind (Gate.finish? · answer) with
  | some (_, gate) => { stage with gate := some gate }
  | none => stage

/-- What comes of going into the gate: an answer at once, or a wait for one. -/
inductive Admission (α : Type) where
  | answer (answer : CredentialAnswer) (stage : Stage α)
  | waits (stage : Stage α)

/-- The dialogue at the head of the gate's queue goes in. -/
def enterGate (stage : Stage α) (id : Nat) (gate : Gate)
    (resume : CredentialAnswer → Dialogue α) : Admission α :=
  match gate.enter? with
  | none => .waits { stage with gate := some gate }
  | some (.reuses _ answer, gate) =>
    .answer answer ({ stage with gate := some gate }.note (.log reuseRecord))
  | some (.asks _, gate) =>
    let (cue, stage) := { stage with gate := some gate }.askNew
    if cue.delay = 0 then .answer cue.answer (stage.leaveGate cue.answer)
    else .waits (stage.sleep id cue.delay (.leavesGate cue.answer resume))

/-- A dialogue asks for a new credential. With a gate it joins the queue, and goes in if nobody
is before it. -/
def beginRefresh (stage : Stage α) (id : Nat) (resume : CredentialAnswer → Dialogue α) :
    Admission α :=
  match stage.gate with
  | none =>
    let (cue, stage) := stage.askNew
    if cue.delay = 0 then .answer cue.answer stage
    else .waits (stage.sleep id cue.delay (.answered cue.answer resume))
  | some gate =>
    let isFirst := gate.queue.isEmpty && gate.inside.isNone
    let gate := gate.arrive id
    if isFirst then stage.enterGate id gate resume
    else .waits ({ stage with gate := some gate }.wait id .turn (.entersGate resume))

/-! ## Going on -/

/-- Runs a dialogue until it waits or ends. -/
def proceed (stage : Stage α) (id : Nat) : Dialogue α → Stage α
  | .done result =>
    { stage with ended := stage.ended ++ [⟨id, result, stage.clock⟩] }
  | .note entry next => (stage.note entry).proceed id next
  | .credential resume =>
    let (cue, provider) := stage.provider.get
    let stage := { stage with provider }
    if cue.delay = 0 then stage.proceed id (resume cue.answer)
    else stage.sleep id cue.delay (.answered cue.answer resume)
  | .refresh resume =>
    match stage.beginRefresh id resume with
    | .answer answer stage => stage.proceed id (resume answer)
    | .waits stage => stage
  | .exchange request resume =>
    let (cue, peer) := stage.peer.take request
    let stage := { stage with peer, requests := stage.requests ++ [request] }
    let cue := settle request.timeout cue
    if cue.delay = 0 then stage.proceed id (resume cue.answer 0)
    else stage.sleep id cue.delay (.exchanged cue.answer stage.clock resume)

/-- Plays a part until it waits or ends. -/
def play (stage : Stage α) (id : Nat) : Part α → Stage α
  | .speaks dialogue => stage.proceed id dialogue
  | .alters change =>
    let (result, peer) := change stage.peer
    { stage with peer }.proceed id (.done result)

/-- A dialogue that waited goes on. -/
def wake (stage : Stage α) (id : Nat) : Suspended α → Stage α
  | .begins part => stage.play id part
  | .answered answer resume => stage.proceed id (resume answer)
  | .leavesGate answer resume => (stage.leaveGate answer).proceed id (resume answer)
  | .entersGate resume =>
    match stage.gate with
    | none => stage
    | some gate =>
      match stage.enterGate id gate resume with
      | .answer answer stage => stage.proceed id (resume answer)
      | .waits stage => stage
  | .exchanged outcome since resume =>
    stage.proceed id (resume outcome (stage.clock - since))

/-! ## Rounds -/

/-- Whether it is a dialogue's turn at the gate: nobody is inside, and nobody is before it. -/
def isTurn (stage : Stage α) (id : Nat) : Bool :=
  stage.gate.any fun gate =>
    gate.inside.isNone && gate.queue.head?.any fun ticket => ticket.caller == id

/-- Whether what a dialogue waits for has come. -/
def canGoOn (stage : Stage α) (waiting : Waiting α) : Bool :=
  match waiting.awaited with
  | .moment due => decide (due ≤ stage.clock)
  | .turn => stage.isTurn waiting.dialogue

/-- A dialogue goes on, if it waits and what it waits for has come. -/
def goOn (stage : Stage α) (id : Nat) : Stage α :=
  match stage.waiting.find? fun waiting => waiting.dialogue == id && stage.canGoOn waiting with
  | some waiting =>
    { stage with
      waiting := stage.waiting.filter fun other => other.dialogue != id }.wake id waiting.next
  | none => stage

/-- Passes through the dialogues below a number in ascending order. One whose turn at the gate
comes in this round goes on in it, unless the round has passed it. -/
def round (count : Nat) (stage : Stage α) : Stage α :=
  (List.range count).foldl goOn stage

/-- The next moment that a dialogue waits for. -/
def nextMoment? (stage : Stage α) : Option Nat :=
  (stage.waiting.filterMap fun waiting => waiting.awaited.moment?).min?

/-- A round, if a dialogue can go on, or else the clock moves; absent if all have ended. -/
def step? (count : Nat) (stage : Stage α) : Option (Stage α) :=
  if stage.waiting.any stage.canGoOn then some (stage.round count)
  else stage.nextMoment?.map fun moment => { stage with clock := moment }

/-- Makes at most the given number of steps. -/
def steps (count : Nat) : Nat → Stage α → Stage α
  | 0, stage => stage
  | limit + 1, stage =>
    match stage.step? count with
    | some stage => stage.steps count limit
    | none => stage

/-! ## Performing -/

/-- How many steps a part can take. A call waits for its beginning, for two credentials, at the
gate, and for two exchanges; to wait costs a step of the clock and a round. -/
def stepsPerPart : Nat := 16

/-- Starts parts with the numbers from `first` on, each after a delay. The ones without delay
are played at once, in the given order. -/
def startFrom (first : Nat) (stage : Stage α) : List (Nat × Part α) → Stage α
  | [] => stage
  | (delay, part) :: rest =>
    let stage :=
      if delay = 0 then stage.play first part else stage.sleep first delay (.begins part)
    stage.startFrom (first + 1) rest

/-- Starts parts, each after a delay, and plays them until all have ended. Their results come
in the order in which they were given, with the times of their ends. -/
def perform (stage : Stage α) (parts : List (Nat × Part α)) : List (Ended α) × Stage α :=
  let stage := { stage with ended := [], entries := [], requests := [] }
  let count := parts.length
  let stage := (stage.startFrom 0 parts).steps count (stepsPerPart * count)
  ((List.range count).filterMap fun id =>
    stage.ended.find? fun ended => ended.dialogue == id, stage)

end Stage

end GameShelf.Rehearsal
