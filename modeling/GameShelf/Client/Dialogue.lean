import GameShelf.Client.Telemetry

/-!
# Dialogues

A call of the library asks the outside world for credentials and for exchanges with the server,
and it leaves entries on the way. It is written down as the tree of its questions, with one
branch for each answer: nothing happens by itself, and what is asked next depends on the answers
alone.

* `Dialogue`: the trees.
* `Dialogue.bind`: one dialogue after another.
* `World`, `Dialogue.runIn`: a dialogue held with a world that answers at once, step by step.
-/

namespace GameShelf

/-- What a call asks and leaves on its way to a result. -/
inductive Dialogue (α : Type) where
  | done (result : α)
  /-- Leaves an entry. -/
  | note (entry : Telemetry.Entry) (next : Dialogue α)
  /-- Asks for the current credential. -/
  | credential (resume : Except Unavailable Credential → Dialogue α)
  /-- Asks for a new credential. -/
  | refresh (resume : Except Unavailable Credential → Dialogue α)
  /-- Asks for an exchange. The answer says how it ended and after how many nanoseconds. -/
  | exchange (request : WireRequest) (resume : Outcome → Nat → Dialogue α)

namespace Dialogue

/-- Goes on with the result of a dialogue. -/
def bind {α β : Type} (first : Dialogue α) (next : α → Dialogue β) : Dialogue β :=
  match first with
  | done result => next result
  | note entry rest => note entry (bind rest next)
  | credential resume => credential fun answer => bind (resume answer) next
  | refresh resume => refresh fun answer => bind (resume answer) next
  | exchange request resume =>
    exchange request fun outcome duration => bind (resume outcome duration) next

/-- Leaves events, then ends with a result. -/
def noteAll {α : Type} (events : List Telemetry.Event) (result : α) : Dialogue α :=
  events.foldr (fun event rest => note (.event event) rest) (done result)

end Dialogue

/-! ## Worlds -/

/-- A world that answers questions from a state. -/
structure World (σ : Type) where
  credential : σ → Except Unavailable Credential × σ
  refresh : σ → Except Unavailable Credential × σ
  exchange : WireRequest → σ → (Outcome × Nat) × σ

/-- What a dialogue in a world comes to. -/
structure Run (σ α : Type) where
  result : α
  entries : List Telemetry.Entry
  state : σ

/-- Holds a dialogue with a world. -/
def Dialogue.runIn {σ α : Type} (world : World σ) : Dialogue α → σ → Run σ α
  | .done result, state => ⟨result, [], state⟩
  | .note entry next, state =>
    let run := next.runIn world state
    { run with entries := entry :: run.entries }
  | .credential resume, state =>
    let (answer, state) := world.credential state
    (resume answer).runIn world state
  | .refresh resume, state =>
    let (answer, state) := world.refresh state
    (resume answer).runIn world state
  | .exchange request resume, state =>
    let ((outcome, duration), state) := world.exchange request state
    (resume outcome duration).runIn world state

end GameShelf
