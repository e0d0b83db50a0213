import GameShelf.Proofs.Client.Interleaving
import GameShelf.Rehearsal.Stage

/-!
# Performances are interleavings

Dialogues that are played on a stage give way to each other when they wait. Whatever the partners
answer, and whether they have to pass a gate, their performance is one of the histories of
dialogues side by side.

* `Recorded`: what a stage has recorded is what happens in a history.
* `Ready`: a dialogue that waits on a stage stands where it stands in a history.
* `Plays`: a stage with all its dialogues is at the end of a history.
* `Stage.proceed_plays`, `Stage.goOn_plays`: it stays so when a dialogue goes on.
* `Stage.perform_interleaves`: a performance is a history.
-/

namespace GameShelf.Rehearsal

open RefreshGate (Gate)
open Telemetry (Entry Event)

variable {α : Type}

/-! ## Records -/

/-- The events among entries. -/
def eventsAmong : List Entry → List Event :=
  List.filterMap fun
    | .event event => some event
    | .log _ => none

/-- The events of a history. -/
def eventsOf : List (Nat × Act α) → List Event :=
  List.filterMap fun
    | (_, .notes (.event event)) => some event
    | _ => none

/-- The requests that go out in a history. -/
def requestsOf : List (Nat × Act α) → List WireRequest :=
  List.filterMap fun
    | (_, .asks (.exchange request)) => some request
    | _ => none

/-- The results in a history, with the numbers of the dialogues. -/
def resultsOf : List (Nat × Act α) → List (Nat × α) :=
  List.filterMap fun
    | (caller, .returns result) => some (caller, result)
    | _ => none

section

variable (first second : List (Nat × Act α))

theorem eventsOf_append : eventsOf (first ++ second) = eventsOf first ++ eventsOf second :=
  List.filterMap_append

theorem requestsOf_append : requestsOf (first ++ second) = requestsOf first ++ requestsOf second :=
  List.filterMap_append

theorem resultsOf_append : resultsOf (first ++ second) = resultsOf first ++ resultsOf second :=
  List.filterMap_append

end

/-- What a stage has recorded is what happens in a history. -/
structure Recorded (stage : Stage α) (history : List (Nat × Act α)) : Prop where
  events : eventsAmong stage.entries = eventsOf history
  requests : stage.requests = requestsOf history
  results : (stage.ended.map fun ended => (ended.dialogue, ended.result)) = resultsOf history

/-- A stage on which nothing more is recorded. -/
structure SameRecords (stage other : Stage α) : Prop where
  events : eventsAmong other.entries = eventsAmong stage.entries
  requests : other.requests = stage.requests
  ended : other.ended = stage.ended

theorem SameRecords.refl (stage : Stage α) : SameRecords stage stage := ⟨rfl, rfl, rfl⟩

theorem SameRecords.recorded {stage other : Stage α} {history : List (Nat × Act α)}
    (h : SameRecords stage other) (hrecorded : Recorded stage history) :
    Recorded other history where
  events := h.events.trans hrecorded.events
  requests := h.requests.trans hrecorded.requests
  results := by
    rw [h.ended]
    exact hrecorded.results

/-! ## Dialogues that wait -/

/-- A dialogue that is about to do something on a stage stands where it can do that. -/
def Ready (start pool : Nat → Option (Dialogue α)) (id : Nat) : Suspended α → Prop
  | .begins part =>
    pool id = none ∧ ∃ dialogue, part = .speaks dialogue ∧ start id = some dialogue
  | .answered answer resume =>
    ∃ dialogue heard, pool id = some dialogue ∧ dialogue.hear? heard = some (resume answer)
  | .leavesGate answer resume =>
    ∃ dialogue heard, pool id = some dialogue ∧ dialogue.hear? heard = some (resume answer)
  | .entersGate resume =>
    ∃ dialogue, pool id = some dialogue ∧
      ∀ answer, dialogue.hear? (.refresh answer) = some (resume answer)
  | .exchanged outcome _ resume =>
    ∃ dialogue, pool id = some dialogue ∧
      ∀ duration, dialogue.hear? (.exchange outcome duration) = some (resume outcome duration)

/-- Only its own place matters. -/
theorem Ready.congr {start pool other : Nat → Option (Dialogue α)} {id : Nat}
    {next : Suspended α} (h : Ready start pool id next) (hid : other id = pool id) :
    Ready start other id next := by
  unfold Ready at h ⊢
  rw [hid]
  exact h

/-- A stage is at the end of a history, and its dialogues stand where they stand there. -/
structure Plays (start : Nat → Option (Dialogue α)) (stage : Stage α)
    (history : List (Nat × Act α)) (pool : Nat → Option (Dialogue α)) : Prop where
  interleaving : Interleaving start history pool
  recorded : Recorded stage history
  ready : ∀ waiting ∈ stage.waiting, Ready start pool waiting.dialogue waiting.next

/-! ## What comes to be recorded -/

section

variable {stage : Stage α} {history : List (Nat × Act α)} {id : Nat}

/-- A history that goes on, and a stage that records what is new in it. -/
theorem Recorded.extend {other : Stage α} {new : List (Nat × Act α)} (h : Recorded stage history)
    (hevents : eventsAmong other.entries = eventsAmong stage.entries ++ eventsOf new)
    (hrequests : other.requests = stage.requests ++ requestsOf new)
    (hresults : (other.ended.map fun ended => (ended.dialogue, ended.result)) =
      (stage.ended.map fun ended => (ended.dialogue, ended.result)) ++ resultsOf new) :
    Recorded other (history ++ new) where
  events := by rw [hevents, h.events, eventsOf_append]
  requests := by rw [hrequests, h.requests, requestsOf_append]
  results := by rw [hresults, h.results, resultsOf_append]

/-- What a dialogue notes is recorded. -/
theorem Recorded.noted (h : Recorded stage history) (entry : Entry) :
    Recorded (stage.note entry) (history ++ ofCaller id [.notes entry]) := by
  refine h.extend ?_ (List.append_nil _).symm (List.append_nil _).symm
  simp only [Stage.note, eventsAmong, List.filterMap_append]
  cases entry with
  | event event => rfl
  | log record => rfl

/-- A request that goes out is, too. -/
theorem Recorded.sent (h : Recorded stage history) (request : WireRequest) (peer : Peer) :
    Recorded { stage with peer, requests := stage.requests ++ [request] }
      (history ++ ofCaller id [.asks (.exchange request)]) :=
  h.extend (List.append_nil _).symm rfl (List.append_nil _).symm

/-- And a result is. -/
theorem Recorded.returned (h : Recorded stage history) (result : α) :
    Recorded { stage with ended := stage.ended ++ [⟨id, result, stage.clock⟩] }
      (history ++ ofCaller id [.returns result]) := by
  refine h.extend (List.append_nil _).symm (List.append_nil _).symm ?_
  rw [List.map_append]
  rfl

/-- Questions about credentials leave no record. -/
theorem Recorded.asked (h : Recorded stage history) {question : Question}
    (hquestion : question = .credential ∨ question = .refresh) :
    Recorded stage (history ++ ofCaller id [.asks question]) := by
  refine h.extend (List.append_nil _).symm ?_ (List.append_nil _).symm
  rcases hquestion with rfl | rfl
  · exact (List.append_nil _).symm
  · exact (List.append_nil _).symm

/-- Nor do answers. -/
theorem Recorded.heard (h : Recorded stage history) (answer : Heard) :
    Recorded stage (history ++ ofCaller id [.hears answer]) :=
  h.extend (List.append_nil _).symm (List.append_nil _).symm (List.append_nil _).symm

end

/-! ## At the gate -/

/-- What comes of asking for a new credential: nothing is recorded, and either there is an answer,
or the dialogue waits for it or for its turn. -/
def Admits (stage : Stage α) (id : Nat) (resume : CredentialAnswer → Dialogue α) :
    Stage.Admission α → Prop
  | .answer _ other => SameRecords stage other ∧ other.waiting = stage.waiting
  | .waits other => SameRecords stage other ∧
      (other.waiting = stage.waiting ∨ ∃ awaited next, other.waiting =
        ⟨id, awaited, next⟩ :: stage.waiting ∧
          (next = .entersGate resume ∨ ∃ answer, next = .answered answer resume ∨
            next = .leavesGate answer resume))

namespace Stage

variable (stage : Stage α) (id : Nat) (resume : CredentialAnswer → Dialogue α)

theorem leaveGate_sameRecords (answer : CredentialAnswer) :
    SameRecords stage (stage.leaveGate answer) ∧
      (stage.leaveGate answer).waiting = stage.waiting := by
  unfold leaveGate
  split
  · exact ⟨⟨rfl, rfl, rfl⟩, rfl⟩
  · exact ⟨.refl stage, rfl⟩

theorem enterGate_admits (gate : Gate) :
    Admits stage id resume (stage.enterGate id gate resume) := by
  unfold enterGate
  split
  · exact ⟨⟨rfl, rfl, rfl⟩, .inl rfl⟩
  · -- taking the answer of another leaves a log record, which is no event
    refine ⟨⟨?_, rfl, rfl⟩, rfl⟩
    simp [Stage.note, eventsAmong]
  · dsimp only
    split
    · -- asking itself records nothing, either
      rcases leaveGate_sameRecords ({ stage with gate := some _ } : Stage α).askNew.2 _ with
        ⟨⟨hevents, hrequests, hended⟩, hwaiting⟩
      exact ⟨⟨hevents, hrequests, hended⟩, hwaiting⟩
    · exact ⟨⟨rfl, rfl, rfl⟩, .inr ⟨_, _, rfl, .inr ⟨_, .inr rfl⟩⟩⟩

theorem beginRefresh_admits : Admits stage id resume (stage.beginRefresh id resume) := by
  unfold beginRefresh
  split
  · dsimp only
    split
    · exact ⟨⟨rfl, rfl, rfl⟩, rfl⟩
    · exact ⟨⟨rfl, rfl, rfl⟩, .inr ⟨_, _, rfl, .inr ⟨_, .inl rfl⟩⟩⟩
  · dsimp only
    split
    · exact enterGate_admits stage id resume _
    · exact ⟨⟨rfl, rfl, rfl⟩, .inr ⟨_, _, rfl, .inl rfl⟩⟩

end Stage

/-! ## Turns -/

/-- A dialogue is on its turn: what it does up to its next question belongs to the history
already, but is not recorded yet. The others stand where they stand in the history. -/
structure OnTurn (start : Nat → Option (Dialogue α)) (stage : Stage α) (id : Nat)
    (dialogue : Dialogue α) (history : List (Nat × Act α)) (pool : Nat → Option (Dialogue α)) :
    Prop where
  interleaving : Interleaving start (history ++ ofCaller id dialogue.opening) pool
  place : ∃ whole, pool id = some whole ∧ ∀ heard, whole.hear? heard = dialogue.hear? heard
  recorded : Recorded stage history
  others : ∀ waiting ∈ stage.waiting, waiting.dialogue ≠ id ∧
    Ready start pool waiting.dialogue waiting.next

section

variable {start pool : Nat → Option (Dialogue α)} {stage : Stage α} {id : Nat}
  {dialogue : Dialogue α} {history : List (Nat × Act α)}

/-- A turn begins when a dialogue begins, -/
theorem OnTurn.of_begins (h : Plays start stage history pool) (hpool : pool id = none)
    (hstart : start id = some dialogue)
    (hothers : ∀ waiting ∈ stage.waiting, waiting.dialogue ≠ id) :
    OnTurn start stage id dialogue history (Function.update pool id (some dialogue)) where
  interleaving := h.interleaving.begins hpool hstart
  place := ⟨dialogue, Function.update_self .., fun _ => rfl⟩
  recorded := h.recorded
  others := by
    intro waiting hwaiting
    have hother := hothers waiting hwaiting
    exact ⟨hother, (h.ready waiting hwaiting).congr (Function.update_of_ne hother ..)⟩

/-- or when its question is answered. -/
theorem OnTurn.of_hears {next : Dialogue α} {heard : Heard} (h : Plays start stage history pool)
    (hpool : pool id = some dialogue) (hhear : dialogue.hear? heard = some next)
    (hothers : ∀ waiting ∈ stage.waiting, waiting.dialogue ≠ id) :
    OnTurn start stage id next (history ++ ofCaller id [.hears heard])
      (Function.update pool id (some next)) where
  interleaving := by
    rw [List.append_assoc]
    exact h.interleaving.goesOn hpool hhear
  place := ⟨next, Function.update_self .., fun _ => rfl⟩
  recorded := h.recorded.heard heard
  others := by
    intro waiting hwaiting
    have hother := hothers waiting hwaiting
    exact ⟨hother, (h.ready waiting hwaiting).congr (Function.update_of_ne hother ..)⟩

/-- A turn is over when all that was done in it is recorded. -/
theorem OnTurn.plays {other : Stage α} (h : OnTurn start stage id dialogue history pool)
    (hrecorded : Recorded other (history ++ ofCaller id dialogue.opening))
    (hwaiting : other.waiting = stage.waiting) :
    Plays start other (history ++ ofCaller id dialogue.opening) pool where
  interleaving := h.interleaving
  recorded := hrecorded
  ready := by
    intro waiting hmem
    rw [hwaiting] at hmem
    exact (h.others waiting hmem).2

/-- A dialogue that waits from then on is one more. -/
theorem Plays.wait (h : Plays start stage history pool) (awaited : Awaited) {next : Suspended α}
    (hready : Ready start pool id next) :
    Plays start (stage.wait id awaited next) history pool where
  interleaving := h.interleaving
  recorded := ⟨h.recorded.events, h.recorded.requests, h.recorded.results⟩
  ready := by
    intro waiting hmem
    rcases List.mem_cons.mp hmem with rfl | hmem
    · exact hready
    · exact h.ready waiting hmem

/-- The next turn, if the question is answered at once. -/
theorem OnTurn.answered {other : Stage α} {next : Dialogue α} (heard : Heard)
    (h : OnTurn start stage id dialogue history pool)
    (hrecorded : Recorded other (history ++ ofCaller id dialogue.opening))
    (hwaiting : other.waiting = stage.waiting) (hhear : dialogue.hear? heard = some next) :
    OnTurn start other id next
      (history ++ ofCaller id dialogue.opening ++ ofCaller id [.hears heard])
      (Function.update pool id (some next)) := by
  rcases h.place with ⟨whole, hpool, hwhole⟩
  refine .of_hears (h.plays hrecorded hwaiting) hpool ((hwhole heard).trans hhear) ?_
  intro waiting hmem
  rw [hwaiting] at hmem
  exact (h.others waiting hmem).1

/-- After one dialogue has gone on, the stage plays, and the others stand and wait as before. -/
def GoesOn (start : Nat → Option (Dialogue α)) (waiting : List (Waiting α))
    (pool : Nat → Option (Dialogue α)) (id : Nat) (stage : Stage α) : Prop :=
  ∃ history after, Plays start stage history after ∧
    (∀ other, other ≠ id → after other = pool other) ∧
    ∀ entry ∈ stage.waiting, entry.dialogue = id ∨ entry ∈ waiting

theorem GoesOn.of_update {waiting : List (Waiting α)} {place : Option (Dialogue α)}
    (h : GoesOn start waiting (Function.update pool id place) id stage) :
    GoesOn start waiting pool id stage := by
  rcases h with ⟨history, after, hplays, hothers, hwaiting⟩
  refine ⟨history, after, hplays, ?_, hwaiting⟩
  intro other hother
  rw [hothers other hother, Function.update_of_ne hother]

/-- The dialogue may wait then. -/
theorem Plays.goesOn_wait (h : Plays start stage history pool) (awaited : Awaited)
    {next : Suspended α} (hready : Ready start pool id next) :
    GoesOn start stage.waiting pool id (stage.wait id awaited next) := by
  refine ⟨history, pool, h.wait awaited hready, fun _ _ => rfl, ?_⟩
  intro entry hentry
  rcases List.mem_cons.mp hentry with rfl | hentry
  · exact .inl rfl
  · exact .inr hentry

/-- A dialogue that waits for an answer about credentials stands at its question. -/
theorem ready_of_refresh {resume : CredentialAnswer → Dialogue α} {next : Suspended α}
    (hplace : Ready start pool id (.entersGate resume))
    (hnext : next = .entersGate resume ∨ ∃ answer, next = .answered answer resume ∨
      next = .leavesGate answer resume) : Ready start pool id next := by
  rcases hnext with rfl | ⟨answer, hnext⟩
  · exact hplace
  · rcases hplace with ⟨whole, hpool, hwhole⟩
    rcases hnext with rfl | rfl
    · exact ⟨whole, .refresh answer, hpool, hwhole answer⟩
    · exact ⟨whole, .refresh answer, hpool, hwhole answer⟩

/-- A stage that differs in nothing that matters plays the same. -/
theorem Plays.congr {other : Stage α} (h : Plays start stage history pool)
    (hrecords : SameRecords stage other) (hwaiting : other.waiting = stage.waiting) :
    Plays start other history pool where
  interleaving := h.interleaving
  recorded := hrecords.recorded h.recorded
  ready := by
    rw [hwaiting]
    exact h.ready

/-- A dialogue that is kept waiting for a new credential waits at its question. -/
theorem goesOn_of_admits {resume : CredentialAnswer → Dialogue α} {other : Stage α}
    (h : Plays start stage history pool)
    (hplace : Ready start pool id (.entersGate resume))
    (hadmits : Admits stage id resume (.waits other)) :
    GoesOn start stage.waiting pool id other := by
  rcases hadmits with ⟨hrecords, hsame | ⟨awaited, next, hmore, hnext⟩⟩
  · refine ⟨history, pool, h.congr hrecords hsame, fun _ _ => rfl, ?_⟩
    rw [hsame]
    exact fun _ => .inr
  · have hwait := h.wait awaited (ready_of_refresh hplace hnext)
    refine ⟨history, pool, ⟨h.interleaving, hrecords.recorded h.recorded, ?_⟩, fun _ _ => rfl, ?_⟩
    · rw [hmore]
      exact hwait.ready
    · rw [hmore]
      intro entry hentry
      rcases List.mem_cons.mp hentry with rfl | hentry
      · exact .inl rfl
      · exact .inr hentry

/-- A dialogue that goes on plays its turn, and the next ones as long as it is answered at once. -/
theorem Stage.proceed_plays (h : OnTurn start stage id dialogue history pool) :
    GoesOn start stage.waiting pool id (stage.proceed id dialogue) := by
  induction dialogue generalizing stage history pool with
  | done result =>
    exact ⟨_, pool, h.plays (h.recorded.returned result) rfl, fun _ _ => rfl, fun _ => .inr⟩
  | note entry next ih =>
    have hnext : OnTurn start (stage.note entry) id next
        (history ++ ofCaller id [.notes entry]) pool :=
      { interleaving := by
          rw [List.append_assoc]
          exact h.interleaving
        place := h.place
        recorded := h.recorded.noted entry
        others := h.others }
    exact ih hnext
  | credential resume ih =>
    have hasked : Recorded stage (history ++ ofCaller id [.asks .credential]) :=
      h.recorded.asked (.inl rfl)
    have hrecorded : Recorded { stage with provider := stage.provider.get.2 }
        (history ++ ofCaller id [.asks .credential]) :=
      ⟨hasked.events, hasked.requests, hasked.results⟩
    simp only [proceed]
    split
    · exact (ih _ (.answered (.credential _) h hrecorded rfl rfl)).of_update
    · rcases h.place with ⟨whole, hpool, hwhole⟩
      exact (h.plays hrecorded rfl).goesOn_wait _ ⟨whole, .credential _, hpool, hwhole _⟩
  | refresh resume ih =>
    have hasked : Recorded stage (history ++ ofCaller id [.asks .refresh]) :=
      h.recorded.asked (.inr rfl)
    have hadmits := beginRefresh_admits stage id resume
    simp only [proceed]
    cases hadmission : stage.beginRefresh id resume with
    | answer answer other =>
      rw [hadmission] at hadmits
      rcases hadmits with ⟨hrecords, hwaiting⟩
      have hnext := OnTurn.answered (.refresh answer) h (hrecords.recorded hasked) hwaiting rfl
      have hgoesOn := (ih _ hnext).of_update
      rw [hwaiting] at hgoesOn
      exact hgoesOn
    | waits other =>
      rw [hadmission] at hadmits
      rcases h.place with ⟨whole, hpool, hwhole⟩
      exact goesOn_of_admits (h.plays hasked rfl)
        ⟨whole, hpool, fun answer => hwhole (.refresh answer)⟩ hadmits
  | exchange request resume ih =>
    have hrecorded : Recorded
        { stage with
          peer := (stage.peer.take request).2
          requests := stage.requests ++ [request] }
        (history ++ ofCaller id [.asks (.exchange request)]) :=
      h.recorded.sent request _
    simp only [proceed]
    split
    · exact (ih _ _ (.answered (.exchange _ 0) h hrecorded rfl rfl)).of_update
    · rcases h.place with ⟨whole, hpool, hwhole⟩
      exact (h.plays hrecorded rfl).goesOn_wait _
        ⟨whole, hpool, fun duration => hwhole (.exchange _ duration)⟩

/-- Nobody else waits in the place of a dialogue that goes on. -/
theorem Stage.wake_plays {next : Suspended α} (h : Plays start stage history pool)
    (hready : Ready start pool id next)
    (hothers : ∀ waiting ∈ stage.waiting, waiting.dialogue ≠ id) :
    GoesOn start stage.waiting pool id (stage.wake id next) := by
  cases next with
  | begins part =>
    rcases hready with ⟨hpool, dialogue, rfl, hstart⟩
    exact (proceed_plays (.of_begins h hpool hstart hothers)).of_update
  | answered answer resume =>
    rcases hready with ⟨dialogue, heard, hpool, hhear⟩
    exact (proceed_plays (.of_hears h hpool hhear hothers)).of_update
  | leavesGate answer resume =>
    rcases hready with ⟨dialogue, heard, hpool, hhear⟩
    rcases leaveGate_sameRecords stage answer with ⟨hrecords, hwaiting⟩
    have hturn := OnTurn.of_hears (h.congr hrecords hwaiting) hpool hhear (by rwa [hwaiting])
    have hgoesOn := (proceed_plays hturn).of_update
    rw [hwaiting] at hgoesOn
    exact hgoesOn
  | entersGate resume =>
    simp only [wake]
    cases hgate : stage.gate with
    | none => exact ⟨history, pool, h, fun _ _ => rfl, fun _ => .inr⟩
    | some gate =>
      have hadmits := enterGate_admits stage id resume gate
      cases hadmission : stage.enterGate id gate resume with
      | answer answer other =>
        rw [hadmission] at hadmits
        rcases hadmits with ⟨hrecords, hwaiting⟩
        rcases hready with ⟨dialogue, hpool, hhear⟩
        have hturn := OnTurn.of_hears (h.congr hrecords hwaiting) hpool (hhear answer)
          (by rwa [hwaiting])
        have hgoesOn := (proceed_plays hturn).of_update
        rw [hwaiting] at hgoesOn
        simpa only [hadmission] using hgoesOn
      | waits other =>
        rw [hadmission] at hadmits
        simpa only [hadmission] using goesOn_of_admits h hready hadmits
  | exchanged outcome since resume =>
    rcases hready with ⟨dialogue, hpool, hhear⟩
    exact (proceed_plays (.of_hears h hpool (hhear _) hothers)).of_update

end

/-! ## Performances -/

section

variable {start : Nat → Option (Dialogue α)} {stage : Stage α}

/-- A stage plays at the end of some history. -/
def PlaysSome (start : Nat → Option (Dialogue α)) (stage : Stage α) : Prop :=
  ∃ history pool, Plays start stage history pool

namespace Stage

/-- It still does after a dialogue has gone on, -/
theorem goOn_plays (h : PlaysSome start stage) (id : Nat) : PlaysSome start (stage.goOn id) := by
  rcases h with ⟨history, pool, h⟩
  unfold goOn
  split
  · next waiting hfind =>
    have hmem := List.mem_of_find?_eq_some hfind
    have hid : waiting.dialogue = id := by
      have htest := List.find?_some hfind
      simp only [Bool.and_eq_true, beq_iff_eq] at htest
      exact htest.1
    have hready := h.ready waiting hmem
    rw [hid] at hready
    -- the dialogue is taken from those that wait before it goes on
    have hplays : Plays start
        { stage with waiting := stage.waiting.filter fun other => other.dialogue != id }
        history pool :=
      { interleaving := h.interleaving
        recorded := ⟨h.recorded.events, h.recorded.requests, h.recorded.results⟩
        ready := fun other hother => h.ready other (List.mem_of_mem_filter hother) }
    have hothers (other) (hother : other ∈ stage.waiting.filter fun other =>
        other.dialogue != id) : other.dialogue ≠ id := by
      simpa using (List.mem_filter.mp hother).2
    rcases wake_plays hplays hready hothers with ⟨history', pool', hplays', -⟩
    exact ⟨history', pool', hplays'⟩
  · exact ⟨history, pool, h⟩

/-- after a round, -/
theorem round_plays (h : PlaysSome start stage) (count : Nat) :
    PlaysSome start (stage.round count) := by
  unfold round
  generalize List.range count = ids
  induction ids generalizing stage with
  | nil => exact h
  | cons id rest ih => exact ih (goOn_plays h id)

/-- and after any number of steps. -/
theorem steps_plays (h : PlaysSome start stage) (count limit : Nat) :
    PlaysSome start (stage.steps count limit) := by
  induction limit generalizing stage with
  | zero => exact h
  | succ limit ih =>
    simp only [steps]
    split
    · next next hnext =>
      apply ih
      unfold step? at hnext
      split at hnext
      · obtain rfl := Option.some.inj hnext
        exact round_plays h count
      · rcases Option.map_eq_some_iff.mp hnext with ⟨moment, -, rfl⟩
        rcases h with ⟨history, pool, h⟩
        exact ⟨history, pool, h.congr ⟨rfl, rfl, rfl⟩ rfl⟩
    · exact h

/-- Parts that are started one after the other. -/
theorem startFrom_plays (parts : List (Nat × Dialogue α)) {first : Nat}
    {history : List (Nat × Act α)} {pool : Nat → Option (Dialogue α)}
    (h : Plays start stage history pool) (hpool : ∀ id, first ≤ id → pool id = none)
    (hwaiting : ∀ waiting ∈ stage.waiting, waiting.dialogue < first)
    (hstart : ∀ index, start (first + index) = parts[index]?.map Prod.snd) :
    PlaysSome start
      (stage.startFrom first (parts.map fun (delay, dialogue) => (delay, .speaks dialogue))) := by
  induction parts generalizing stage first history pool with
  | nil => exact ⟨history, pool, h⟩
  | cons part rest ih =>
    rcases part with ⟨delay, dialogue⟩
    have hfirst : start first = some dialogue := by
      simpa using hstart 0
    have hrest (index : Nat) : start (first + 1 + index) = rest[index]?.map Prod.snd := by
      have hnext := hstart (index + 1)
      rw [List.getElem?_cons_succ] at hnext
      rw [← hnext]
      congr 1
      omega
    simp only [List.map_cons, startFrom]
    split
    · have hothers (waiting) (hmem : waiting ∈ stage.waiting) : waiting.dialogue ≠ first := by
        have hlt := hwaiting waiting hmem
        omega
      have hready : Ready start pool first (.begins (.speaks dialogue)) :=
        ⟨hpool first le_rfl, dialogue, rfl, hfirst⟩
      rcases wake_plays h hready hothers with ⟨history', pool', hplays, hpool', hwaiting'⟩
      refine ih hplays ?_ ?_ hrest
      · intro id hid
        rw [hpool' id (by omega)]
        exact hpool id (by omega)
      · intro waiting hmem
        rcases hwaiting' waiting hmem with hsame | hold
        · omega
        · have hlt := hwaiting waiting hold
          omega
    · have hready : Ready start pool first (.begins (.speaks dialogue)) :=
        ⟨hpool first le_rfl, dialogue, rfl, hfirst⟩
      refine ih (h.wait _ hready) (fun id hid => hpool id (by omega)) ?_ hrest
      intro waiting hmem
      rcases List.mem_cons.mp hmem with rfl | hmem
      · exact Nat.lt_succ_self first
      · have hlt := hwaiting waiting hmem
        omega

/-- What is performed of dialogues, from a stage on which nothing waits, is a history of them side
by side: the same events, requests and results, in the same order. -/
theorem perform_interleaves (stage : Stage α) (hstage : stage.waiting = [])
    (parts : List (Nat × Dialogue α)) :
    ∃ history pool, Interleaving (fun id => parts[id]?.map Prod.snd) history pool ∧
      Recorded (stage.perform (parts.map fun (delay, dialogue) => (delay, .speaks dialogue))).2
        history := by
  have hopened : Plays (fun id => parts[id]?.map Prod.snd)
      { stage with ended := [], entries := [], requests := [] } [] fun _ => none :=
    { interleaving := .opened
      recorded := ⟨rfl, rfl, rfl⟩
      ready := by
        intro waiting hmem
        rw [hstage] at hmem
        exact absurd hmem List.not_mem_nil }
  have hstarted := @startFrom_plays _ _ _ parts 0 _ _ hopened (fun _ _ => rfl) (by simp [hstage])
    (by simp)
  rcases steps_plays hstarted _ _ with ⟨history, pool, hplays⟩
  exact ⟨history, pool, hplays.interleaving, hplays.recorded⟩

end Stage

end

end GameShelf.Rehearsal
