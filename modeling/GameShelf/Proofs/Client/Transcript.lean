import GameShelf.Client.Dialogue

/-!
# Transcripts of dialogues

A dialogue that is held with a world asks its questions one after the other. The transcript lists
them with their answers, and the result and the state at the end follow from it.

* `Turn`, `Dialogue.turnsIn`: questions with their answers.
* `Turn.credentials`, `refreshes`, `exchanges`, `endings`: what the turns of one kind say.
* `Answers`: a world gives the answers of a transcript on the way from one state to another.
-/

namespace GameShelf

/-- A question with its answer. -/
inductive Turn where
  | credential (answer : Except Unavailable Credential)
  | refresh (answer : Except Unavailable Credential)
  | exchange (request : WireRequest) (outcome : Outcome) (duration : Nat)

namespace Turn

/-- The kinds of questions. -/
inductive Kind where
  | credential
  | refresh
  | exchange
deriving DecidableEq, Repr

/-- The kind of a turn. -/
def kind : Turn → Kind
  | credential _ => .credential
  | refresh _ => .refresh
  | exchange .. => .exchange

/-- The answers to the questions for the current credential. -/
def credentials : List Turn → List (Except Unavailable Credential) :=
  List.filterMap fun
    | credential answer => some answer
    | _ => none

/-- The answers to the questions for a new credential. -/
def refreshes : List Turn → List (Except Unavailable Credential) :=
  List.filterMap fun
    | refresh answer => some answer
    | _ => none

/-- The requests that were exchanged, each with how that ended. -/
def exchanges : List Turn → List (WireRequest × Outcome) :=
  List.filterMap fun
    | exchange request outcome _ => some (request, outcome)
    | _ => none

/-- How the exchanges ended, each with how long it took. -/
def endings : List Turn → List (Outcome × Nat) :=
  List.filterMap fun
    | exchange _ outcome duration => some (outcome, duration)
    | _ => none

section

variable (answer : Except Unavailable Credential) (request : WireRequest) (outcome : Outcome)
  (duration : Nat) (turns : List Turn)

@[simp] theorem refreshes_credential :
    refreshes (.credential answer :: turns) = refreshes turns := rfl

@[simp] theorem refreshes_refresh :
    refreshes (.refresh answer :: turns) = answer :: refreshes turns := rfl

@[simp] theorem refreshes_exchange :
    refreshes (.exchange request outcome duration :: turns) = refreshes turns := rfl

@[simp] theorem endings_credential : endings (.credential answer :: turns) = endings turns := rfl

@[simp] theorem endings_refresh : endings (.refresh answer :: turns) = endings turns := rfl

@[simp] theorem endings_exchange :
    endings (.exchange request outcome duration :: turns) =
      (outcome, duration) :: endings turns := rfl

end

end Turn

variable {σ α β : Type}

/-- The transcript of a dialogue with a world. -/
def Dialogue.turnsIn (world : World σ) : Dialogue α → σ → List Turn
  | .done _, _ => []
  | .note _ next, state => next.turnsIn world state
  | .credential resume, state =>
    let (answer, state) := world.credential state
    .credential answer :: (resume answer).turnsIn world state
  | .refresh resume, state =>
    let (answer, state) := world.refresh state
    .refresh answer :: (resume answer).turnsIn world state
  | .exchange request resume, state =>
    let ((outcome, duration), state) := world.exchange request state
    .exchange request outcome duration :: (resume outcome duration).turnsIn world state

/-- A world gives the answers of a transcript, and passes from one state to another with them. -/
def World.Answers (world : World σ) : σ → List Turn → σ → Prop
  | state, [], last => state = last
  | state, .credential answer :: turns, last =>
    (world.credential state).1 = answer ∧ world.Answers (world.credential state).2 turns last
  | state, .refresh answer :: turns, last =>
    (world.refresh state).1 = answer ∧ world.Answers (world.refresh state).2 turns last
  | state, .exchange request outcome duration :: turns, last =>
    (world.exchange request state).1 = (outcome, duration) ∧
      world.Answers (world.exchange request state).2 turns last

/-! ## One question at a time -/

section

variable (world : World σ) (state : σ)

@[simp] theorem Dialogue.turnsIn_done (result : α) :
    (Dialogue.done result).turnsIn world state = [] := rfl

@[simp] theorem Dialogue.turnsIn_note (entry : Telemetry.Entry) (next : Dialogue α) :
    (Dialogue.note entry next).turnsIn world state = next.turnsIn world state := rfl

@[simp] theorem Dialogue.turnsIn_credential
    (resume : Except Unavailable Credential → Dialogue α) :
    (Dialogue.credential resume).turnsIn world state =
      .credential (world.credential state).1 ::
        (resume (world.credential state).1).turnsIn world (world.credential state).2 := rfl

@[simp] theorem Dialogue.turnsIn_refresh (resume : Except Unavailable Credential → Dialogue α) :
    (Dialogue.refresh resume).turnsIn world state =
      .refresh (world.refresh state).1 ::
        (resume (world.refresh state).1).turnsIn world (world.refresh state).2 := rfl

@[simp] theorem Dialogue.turnsIn_exchange (request : WireRequest)
    (resume : Outcome → Nat → Dialogue α) :
    (Dialogue.exchange request resume).turnsIn world state =
      .exchange request (world.exchange request state).1.1 (world.exchange request state).1.2 ::
        (resume (world.exchange request state).1.1 (world.exchange request state).1.2).turnsIn world
          (world.exchange request state).2 := rfl

@[simp] theorem Dialogue.runIn_done (result : α) :
    (Dialogue.done result).runIn world state = ⟨result, [], state⟩ := rfl

@[simp] theorem Dialogue.runIn_note (entry : Telemetry.Entry) (next : Dialogue α) :
    (Dialogue.note entry next).runIn world state =
      { next.runIn world state with entries := entry :: (next.runIn world state).entries } := rfl

@[simp] theorem Dialogue.runIn_credential
    (resume : Except Unavailable Credential → Dialogue α) :
    (Dialogue.credential resume).runIn world state =
      (resume (world.credential state).1).runIn world (world.credential state).2 := rfl

@[simp] theorem Dialogue.runIn_refresh (resume : Except Unavailable Credential → Dialogue α) :
    (Dialogue.refresh resume).runIn world state =
      (resume (world.refresh state).1).runIn world (world.refresh state).2 := rfl

@[simp] theorem Dialogue.runIn_exchange (request : WireRequest)
    (resume : Outcome → Nat → Dialogue α) :
    (Dialogue.exchange request resume).runIn world state =
      (resume (world.exchange request state).1.1 (world.exchange request state).1.2).runIn world
        (world.exchange request state).2 := rfl

end

/-- The answers of a transcript are those of the world, which is left in the state at the end. -/
theorem Dialogue.answers_turnsIn (world : World σ) (dialogue : Dialogue α) (state : σ) :
    world.Answers state (dialogue.turnsIn world state) (dialogue.runIn world state).state := by
  induction dialogue generalizing state with
  | done result => rfl
  | note entry next ih => exact ih state
  | credential resume ih => exact ⟨rfl, ih _ _⟩
  | refresh resume ih => exact ⟨rfl, ih _ _⟩
  | exchange request resume ih => exact ⟨rfl, ih _ _ _⟩

/-! ## One dialogue after another -/

/-- The second of two dialogues goes on in the state in which the first one ends. -/
theorem Dialogue.runIn_bind (world : World σ) (first : Dialogue α) (next : α → Dialogue β)
    (state : σ) :
    (first.bind next).runIn world state =
      let run := first.runIn world state
      let rest := (next run.result).runIn world run.state
      ⟨rest.result, run.entries ++ rest.entries, rest.state⟩ := by
  induction first generalizing state with
  | done result => rfl
  | note entry rest ih => simp only [Dialogue.bind, runIn_note, ih, List.cons_append]
  | credential resume ih => simp only [Dialogue.bind, runIn_credential, ih]
  | refresh resume ih => simp only [Dialogue.bind, runIn_refresh, ih]
  | exchange request resume ih => simp only [Dialogue.bind, runIn_exchange, ih]

/-- Leaving events asks nothing and changes nothing. -/
theorem Dialogue.runIn_noteAll (world : World σ) (events : List Telemetry.Event) (result : α)
    (state : σ) :
    (noteAll events result).runIn world state = ⟨result, events.map .event, state⟩ := by
  induction events with
  | nil => rfl
  | cons event rest ih =>
    have hstep : noteAll (event :: rest) result = .note (.event event) (noteAll rest result) := rfl
    rw [hstep, runIn, ih]
    rfl

end GameShelf
