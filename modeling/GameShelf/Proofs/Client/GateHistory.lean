import GameShelf.Client.RefreshGate

/-!
# Histories of a gate

Any number of callers come to a gate, go in and leave, and the provider answers when it likes. A
history lists what happened, oldest first. The steps of different callers come in any order, and
callers that wait may pass one another, so that nothing rests on who goes in first.

* `Event`, `Run`: what can happen, and the histories that lead to a gate.
* `answers`, `asked`: the answers of the provider and who asked it.
* `Accounted`: what a gate says about its history.
* `Run.accounted`: every gate with a history is accounted for.
* `Run.length_le`: given calls come to an end; nothing goes on for ever.
* `Gate.Quiet`: nothing can happen at a gate but a further call. `Run.returned_of_quiet` says that
  all calls have returned then, and `Run.completes` that it comes to this from everywhere.
-/

namespace GameShelf.RefreshGate

/-- What happens at a gate. -/
inductive Event where
  /-- A call comes. -/
  | starts (caller : Nat)
  /-- A call goes in: it asks the provider, or it leaves with an answer. -/
  | enters (entrance : Entrance)
  /-- The provider answers, and the call that asked leaves with the answer. -/
  | answered (caller : Nat) (answer : CredentialAnswer)

/-- What happened, oldest first. -/
abbrev History := List Event

/-- The answers of the provider. -/
def answers : History → List CredentialAnswer :=
  List.filterMap fun
    | .answered _ answer => some answer
    | _ => none

/-- The calls that asked the provider. -/
def asked : History → List Nat :=
  List.filterMap fun
    | .enters (.asks caller) => some caller
    | _ => none

/-- The calls that came. -/
def started : History → List Nat :=
  List.filterMap fun
    | .starts caller => some caller
    | _ => none

/-- How calls went in. -/
def entered : History → List Entrance :=
  List.filterMap fun
    | .enters entrance => some entrance
    | _ => none

/-- A call returned with an answer. -/
def Returned (history : History) (caller : Nat) (answer : CredentialAnswer) : Prop :=
  .answered caller answer ∈ history ∨ .enters (.reuses caller answer) ∈ history

/-- The histories that lead from an opened gate to a gate. Every call has a number of its own. -/
inductive Run : History → Gate → Prop where
  | opened : Run [] Gate.opened
  | starts {history : History} {gate : Gate} {caller : Nat} (run : Run history gate)
      (fresh : .starts caller ∉ history) :
      Run (history ++ [.starts caller]) (gate.arrive caller)
  | enters {history : History} {gate next : Gate} {entrance : Entrance} (run : Run history gate)
      (enter : gate.enter? = some (entrance, next)) :
      Run (history ++ [.enters entrance]) next
  | answered {history : History} {gate next : Gate} {caller : Nat} {answer : CredentialAnswer}
      (run : Run history gate) (finish : gate.finish? answer = some (caller, next)) :
      Run (history ++ [.answered caller answer]) next
  /-- Callers that wait pass one another. -/
  | passes {history : History} {gate : Gate} {queue : List Ticket} (run : Run history gate)
      (perm : queue.Perm gate.queue) :
      Run history { gate with queue }

/-! ## Parts of histories -/

@[simp] theorem answers_append (first second : History) :
    answers (first ++ second) = answers first ++ answers second :=
  List.filterMap_append

@[simp] theorem asked_append (first second : History) :
    asked (first ++ second) = asked first ++ asked second :=
  List.filterMap_append

@[simp] theorem answers_starts (caller : Nat) (rest : History) :
    answers (.starts caller :: rest) = answers rest := rfl

@[simp] theorem answers_enters (entrance : Entrance) (rest : History) :
    answers (.enters entrance :: rest) = answers rest := rfl

@[simp] theorem answers_answered (caller : Nat) (answer : CredentialAnswer) (rest : History) :
    answers (.answered caller answer :: rest) = answer :: answers rest := rfl

@[simp] theorem answers_nil : answers [] = [] := rfl

@[simp] theorem asked_starts (caller : Nat) (rest : History) :
    asked (.starts caller :: rest) = asked rest := rfl

@[simp] theorem asked_asks (caller : Nat) (rest : History) :
    asked (.enters (.asks caller) :: rest) = caller :: asked rest := rfl

@[simp] theorem asked_reuses (caller : Nat) (answer : CredentialAnswer) (rest : History) :
    asked (.enters (.reuses caller answer) :: rest) = asked rest := rfl

@[simp] theorem asked_answered (caller : Nat) (answer : CredentialAnswer) (rest : History) :
    asked (.answered caller answer :: rest) = asked rest := rfl

@[simp] theorem asked_nil : asked [] = [] := rfl

@[simp] theorem started_append (first second : History) :
    started (first ++ second) = started first ++ started second :=
  List.filterMap_append

@[simp] theorem entered_append (first second : History) :
    entered (first ++ second) = entered first ++ entered second :=
  List.filterMap_append

@[simp] theorem started_starts (caller : Nat) (rest : History) :
    started (.starts caller :: rest) = caller :: started rest := rfl

@[simp] theorem started_enters (entrance : Entrance) (rest : History) :
    started (.enters entrance :: rest) = started rest := rfl

@[simp] theorem started_answered (caller : Nat) (answer : CredentialAnswer) (rest : History) :
    started (.answered caller answer :: rest) = started rest := rfl

@[simp] theorem started_nil : started [] = [] := rfl

@[simp] theorem entered_starts (caller : Nat) (rest : History) :
    entered (.starts caller :: rest) = entered rest := rfl

@[simp] theorem entered_enters (entrance : Entrance) (rest : History) :
    entered (.enters entrance :: rest) = entrance :: entered rest := rfl

@[simp] theorem entered_answered (caller : Nat) (answer : CredentialAnswer) (rest : History) :
    entered (.answered caller answer :: rest) = entered rest := rfl

@[simp] theorem entered_nil : entered [] = [] := rfl

theorem mem_answers {history : History} {answer : CredentialAnswer} :
    answer ∈ answers history ↔ ∃ caller, .answered caller answer ∈ history := by
  constructor
  · intro h
    rcases List.mem_filterMap.mp h with ⟨event, hevent, hanswer⟩
    cases event with
    | answered caller other =>
      obtain rfl := Option.some.inj hanswer
      exact ⟨caller, hevent⟩
    | starts caller => exact absurd hanswer (by simp)
    | enters entrance => exact absurd hanswer (by simp)
  · rintro ⟨caller, h⟩
    exact List.mem_filterMap.mpr ⟨_, h, rfl⟩

/-- A place in a history that goes on by one event is that event or a place in what was before. -/
theorem split_last {history before after : History} {last event : Event}
    (h : history ++ [last] = before ++ event :: after) :
    (history = before ∧ last = event ∧ after = []) ∨
      ∃ rest, after = rest ++ [last] ∧ history = before ++ event :: rest := by
  rcases List.eq_nil_or_concat after with rfl | ⟨rest, other, rfl⟩
  · rcases List.append_inj' h rfl with ⟨rfl, hlast⟩
    exact .inl ⟨rfl, List.singleton_inj.mp hlast, rfl⟩
  · rw [List.concat_eq_append, ← List.cons_append, ← List.append_assoc] at h
    rcases List.append_inj' h rfl with ⟨rfl, hlast⟩
    obtain rfl := List.singleton_inj.mp hlast
    exact .inr ⟨rest, List.concat_eq_append, rfl⟩

/-! ## Going in and leaving -/

namespace Gate

/-- Who goes in found nobody inside; it asks exactly if no answer came since it arrived. -/
theorem enter?_eq_some {gate next : Gate} {entrance : Entrance}
    (h : gate.enter? = some (entrance, next)) :
    ∃ ticket rest, gate.inside = none ∧ gate.queue = ticket :: rest ∧
      ((∃ answer, gate.answerSince? ticket = some answer ∧
          entrance = .reuses ticket.caller answer ∧ next = { gate with queue := rest }) ∨
        (gate.answerSince? ticket = none ∧ entrance = .asks ticket.caller ∧
          next = { gate with inside := some ticket, queue := rest })) := by
  unfold enter? at h
  split at h
  · rename_i ticket rest hinside hqueue
    refine ⟨ticket, rest, hinside, hqueue, ?_⟩
    split at h
    · rename_i answer hanswer
      rcases Prod.mk.inj (Option.some.inj h) with ⟨rfl, rfl⟩
      exact .inl ⟨answer, hanswer, rfl, rfl⟩
    · rename_i hanswer
      rcases Prod.mk.inj (Option.some.inj h) with ⟨rfl, rfl⟩
      exact .inr ⟨hanswer, rfl, rfl⟩
  · exact absurd h (by simp)

/-- While nobody is inside, the first of the queue can go in. -/
theorem enter?_of_waiting {gate : Gate} {ticket : Ticket} {rest : List Ticket}
    (hinside : gate.inside = none) (hqueue : gate.queue = ticket :: rest) :
    ∃ entrance next, gate.enter? = some (entrance, next) ∧ next.queue = rest := by
  unfold enter?
  simp only [hinside, hqueue]
  cases gate.answerSince? ticket with
  | none => exact ⟨_, { gate with inside := some ticket, queue := rest }, rfl, rfl⟩
  | some answer => exact ⟨_, { gate with inside := none, queue := rest }, rfl, rfl⟩

theorem finish?_eq_some {gate next : Gate} {answer : CredentialAnswer} {caller : Nat}
    (h : gate.finish? answer = some (caller, next)) :
    ∃ ticket, gate.inside = some ticket ∧ caller = ticket.caller ∧
      next = { gate with
        generation := gate.generation + 1, latest := some answer, inside := none } := by
  rcases Option.map_eq_some_iff.mp h with ⟨ticket, hinside, hpair⟩
  rcases Prod.mk.inj hpair with ⟨rfl, rfl⟩
  exact ⟨ticket, hinside, rfl, rfl⟩

end Gate

/-! ## What a gate says about its history -/

/-- A call that came and did not leave: its ticket says how many answers there were. -/
def Waits (history : History) (ticket : Ticket) : Prop :=
  ∃ before after, history = before ++ .starts ticket.caller :: after ∧
    ticket.observed = UInt64.ofNat (answers before).length

/-- What a gate says about its history. -/
structure Accounted (history : History) (gate : Gate) : Prop where
  /-- The generation counts the answers. -/
  generation_eq : gate.generation = UInt64.ofNat (answers history).length
  /-- The latest answer is kept. -/
  latest_eq : gate.latest = (answers history).getLast?
  /-- One question is open while somebody is inside, and otherwise none. -/
  asked_eq : (asked history).length = (answers history).length + gate.inside.toList.length
  /-- A question is answered unless who asked it is inside. -/
  closed : ∀ before after caller, history = before ++ .enters (.asks caller) :: after →
    (∃ answer, .answered caller answer ∈ after) ∨ ∃ ticket, gate.inside = some ticket ∧
      ticket.caller = caller
  /-- Who is in the queue came before. -/
  waiting : ∀ ticket ∈ gate.queue, Waits history ticket
  /-- Who came is still there or has returned. -/
  settled : ∀ caller, .starts caller ∈ history →
    (∃ ticket, (ticket ∈ gate.queue ∨ gate.inside = some ticket) ∧ ticket.caller = caller) ∨
      ∃ answer, Returned history caller answer
  /-- Only answers of the provider are handed on. -/
  handed : ∀ caller answer, Returned history caller answer → answer ∈ answers history

theorem Waits.append {history : History} {ticket : Ticket} (h : Waits history ticket)
    (later : History) : Waits (history ++ later) ticket := by
  rcases h with ⟨before, after, rfl, hobserved⟩
  exact ⟨before, after ++ later, by simp, hobserved⟩

theorem Returned.append {history : History} {caller : Nat} {answer : CredentialAnswer}
    (h : Returned history caller answer) (later : History) :
    Returned (history ++ later) caller answer :=
  h.imp (List.mem_append_left _) (List.mem_append_left _)

theorem accounted_opened : Accounted [] Gate.opened where
  generation_eq := rfl
  latest_eq := rfl
  asked_eq := rfl
  closed := by
    intro before after caller h
    exact absurd h (by simp)
  waiting := by
    intro ticket h
    exact absurd h List.not_mem_nil
  settled := by
    intro caller h
    exact absurd h List.not_mem_nil
  handed := by
    intro caller answer h
    exact absurd h (by simp [Returned])

/-- What was asked before an event that is no question stays closed. -/
theorem Accounted.closed_append {history : History} {gate next : Gate} (h : Accounted history gate)
    {last : Event} (hlast : ∀ caller, last ≠ .enters (.asks caller))
    (hinside : ∀ ticket, gate.inside = some ticket →
      (∃ answer, last = .answered ticket.caller answer) ∨ next.inside = some ticket)
    (before after : History) (caller : Nat)
    (hsplit : history ++ [last] = before ++ .enters (.asks caller) :: after) :
    (∃ answer, .answered caller answer ∈ after) ∨ ∃ ticket, next.inside = some ticket ∧
      ticket.caller = caller := by
  rcases split_last hsplit with ⟨-, heq, -⟩ | ⟨rest, rfl, hbefore⟩
  · exact absurd heq (hlast caller)
  · rcases h.closed before rest caller hbefore with ⟨answer, hanswer⟩ | ⟨ticket, hticket, rfl⟩
    · exact .inl ⟨answer, List.mem_append_left _ hanswer⟩
    · rcases hinside ticket hticket with ⟨answer, rfl⟩ | hnext
      · exact .inl ⟨answer, List.mem_append_right _ List.mem_cons_self⟩
      · exact .inr ⟨ticket, hnext, rfl⟩

/-- Who came is still there or has returned after an event that is no call, if it is so for those
that were there before. -/
theorem Accounted.settled_append {history : History} {gate next : Gate} (h : Accounted history gate)
    {last : Event} (hlast : ∀ caller, last ≠ .starts caller)
    (hthere : ∀ ticket, ticket ∈ gate.queue ∨ gate.inside = some ticket →
      (ticket ∈ next.queue ∨ next.inside = some ticket) ∨
        ∃ answer, Returned (history ++ [last]) ticket.caller answer)
    (caller : Nat) (hcaller : .starts caller ∈ history ++ [last]) :
    (∃ ticket, (ticket ∈ next.queue ∨ next.inside = some ticket) ∧ ticket.caller = caller) ∨
      ∃ answer, Returned (history ++ [last]) caller answer := by
  rw [List.mem_append, List.mem_singleton] at hcaller
  have hold := hcaller.resolve_right fun heq => hlast caller heq.symm
  rcases h.settled caller hold with ⟨ticket, hticket, rfl⟩ | ⟨answer, hreturned⟩
  · rcases hthere ticket hticket with hstill | hreturned
    · exact .inl ⟨ticket, hstill, rfl⟩
    · exact .inr hreturned
  · exact .inr ⟨answer, hreturned.append _⟩

/-- A call that comes is counted with what was over then. -/
theorem Accounted.starts {history : History} {gate : Gate} (h : Accounted history gate)
    (caller : Nat) : Accounted (history ++ [.starts caller]) (gate.arrive caller) where
  generation_eq := by simpa [Gate.arrive] using h.generation_eq
  latest_eq := by simpa [Gate.arrive] using h.latest_eq
  asked_eq := by simpa [Gate.arrive] using h.asked_eq
  closed := h.closed_append (by simp) fun _ hinside => .inr hinside
  waiting := by
    intro ticket hticket
    rcases List.mem_append.mp hticket with hold | hnew
    · exact (h.waiting ticket hold).append _
    · obtain rfl := List.mem_singleton.mp hnew
      exact ⟨history, [], rfl, h.generation_eq⟩
  settled := by
    intro other hother
    rcases List.mem_append.mp hother with hold | hnew
    · rcases h.settled other hold with ⟨ticket, hticket, hcaller⟩ | ⟨answer, hreturned⟩
      · exact .inl ⟨ticket, hticket.imp_left (List.mem_append_left _), hcaller⟩
      · exact .inr ⟨answer, hreturned.append _⟩
    · obtain rfl := Event.starts.inj (List.mem_singleton.mp hnew)
      exact .inl ⟨_, .inl (List.mem_append_right _ List.mem_cons_self), rfl⟩
  handed := by
    intro other answer hreturned
    simp only [Returned, List.mem_append, List.mem_singleton, reduceCtorEq, or_false] at hreturned
    simpa using h.handed other answer hreturned

/-- A call that goes in takes the last answer if it came before that answer. -/
theorem Accounted.enters_reuses {history : History} {gate : Gate} (h : Accounted history gate)
    {ticket : Ticket} {rest : List Ticket} {answer : CredentialAnswer}
    (hinside : gate.inside = none) (hqueue : gate.queue = ticket :: rest)
    (hanswer : gate.answerSince? ticket = some answer) :
    Accounted (history ++ [.enters (.reuses ticket.caller answer)])
      { gate with queue := rest } := by
  have hlatest : gate.latest = some answer := by
    unfold Gate.answerSince? at hanswer
    split at hanswer
    · exact absurd hanswer (by simp)
    · exact hanswer
  constructor
  case generation_eq => simpa using h.generation_eq
  case latest_eq => simpa using h.latest_eq
  case asked_eq => simpa using h.asked_eq
  case closed => exact h.closed_append (by simp) fun _ hopen => .inr hopen
  case waiting =>
    intro other hother
    exact (h.waiting other (hqueue ▸ List.mem_cons_of_mem _ hother)).append _
  case settled =>
    refine h.settled_append (by simp) ?_
    rintro other (hother | hother)
    · rw [hqueue] at hother
      rcases List.mem_cons.mp hother with rfl | hrest
      · exact .inr ⟨answer, .inr (List.mem_append_right _ List.mem_cons_self)⟩
      · exact .inl (.inl hrest)
    · rw [hinside] at hother
      exact absurd hother (by simp)
  case handed =>
    intro caller other hreturned
    simp only [Returned, List.mem_append, List.mem_singleton, reduceCtorEq, or_false,
      Event.enters.injEq, Entrance.reuses.injEq] at hreturned
    rw [answers_append, answers_enters, answers_nil, List.append_nil]
    rcases hreturned with hold | hold | ⟨-, rfl⟩
    · exact h.handed caller other (.inl hold)
    · exact h.handed caller other (.inr hold)
    · rw [h.latest_eq] at hlatest
      exact List.mem_of_getLast? hlatest

/-- Otherwise it asks the provider. -/
theorem Accounted.enters_asks {history : History} {gate : Gate} (h : Accounted history gate)
    {ticket : Ticket} {rest : List Ticket} (hinside : gate.inside = none)
    (hqueue : gate.queue = ticket :: rest) :
    Accounted (history ++ [.enters (.asks ticket.caller)])
      { gate with inside := some ticket, queue := rest } := by
  constructor
  case generation_eq => simpa using h.generation_eq
  case latest_eq => simpa using h.latest_eq
  case asked_eq =>
    have hasked := h.asked_eq
    rw [hinside] at hasked
    simpa using hasked
  case closed =>
    -- no question was open before this one
    intro before after caller hsplit
    rcases split_last hsplit with ⟨-, heq, -⟩ | ⟨later, rfl, hbefore⟩
    · obtain rfl := Entrance.asks.inj (Event.enters.inj heq)
      exact .inr ⟨ticket, rfl, rfl⟩
    · rcases h.closed before later caller hbefore with ⟨answer, hold⟩ | ⟨other, hother, -⟩
      · exact .inl ⟨answer, List.mem_append_left _ hold⟩
      · rw [hinside] at hother
        exact absurd hother (by simp)
  case waiting =>
    intro other hother
    exact (h.waiting other (hqueue ▸ List.mem_cons_of_mem _ hother)).append _
  case settled =>
    refine h.settled_append (by simp) ?_
    rintro other (hother | hother)
    · rw [hqueue] at hother
      rcases List.mem_cons.mp hother with rfl | hrest
      · exact .inl (.inr rfl)
      · exact .inl (.inl hrest)
    · rw [hinside] at hother
      exact absurd hother (by simp)
  case handed =>
    intro caller other hreturned
    simp only [Returned, List.mem_append, List.mem_singleton, reduceCtorEq, or_false,
      Event.enters.injEq] at hreturned
    simpa using h.handed caller other hreturned

/-- A call that goes in asks, or it takes the last answer. -/
theorem Accounted.enters {history : History} {gate next : Gate} {entrance : Entrance}
    (h : Accounted history gate) (henter : gate.enter? = some (entrance, next)) :
    Accounted (history ++ [.enters entrance]) next := by
  rcases Gate.enter?_eq_some henter with ⟨ticket, rest, hinside, hqueue, hentrance⟩
  rcases hentrance with ⟨answer, hanswer, rfl, rfl⟩ | ⟨-, rfl, rfl⟩
  · exact h.enters_reuses hinside hqueue hanswer
  · exact h.enters_asks hinside hqueue

/-- The answer of the provider closes the open question. -/
theorem Accounted.answered {history : History} {gate next : Gate} {caller : Nat}
    {answer : CredentialAnswer} (h : Accounted history gate)
    (hfinish : gate.finish? answer = some (caller, next)) :
    Accounted (history ++ [.answered caller answer]) next := by
  rcases Gate.finish?_eq_some hfinish with ⟨ticket, hinside, rfl, rfl⟩
  constructor
  case generation_eq =>
    rw [h.generation_eq]
    simp
  case latest_eq => simp
  case asked_eq =>
    have hasked := h.asked_eq
    rw [hinside] at hasked
    simpa using hasked
  case closed =>
    refine h.closed_append (by simp) fun other hopen => .inl ⟨answer, ?_⟩
    rw [hinside, Option.some.injEq] at hopen
    rw [hopen]
  case waiting =>
    intro other hother
    exact (h.waiting other hother).append _
  case settled =>
    refine h.settled_append (by simp) ?_
    rintro other (hother | hother)
    · exact .inl (.inl hother)
    · rw [hinside, Option.some.injEq] at hother
      subst hother
      exact .inr ⟨answer, .inl (List.mem_append_right _ List.mem_cons_self)⟩
  case handed =>
    intro other given hreturned
    simp only [Returned, List.mem_append, List.mem_singleton, Event.answered.injEq,
      reduceCtorEq, or_false] at hreturned
    rw [answers_append, List.mem_append]
    rcases hreturned with (hold | ⟨-, rfl⟩) | hold
    · exact .inl (h.handed other given (.inl hold))
    · exact .inr List.mem_cons_self
    · exact .inl (h.handed other given (.inr hold))

/-- Who goes first among those that wait does not matter. -/
theorem Accounted.passes {history : History} {gate : Gate} {queue : List Ticket}
    (h : Accounted history gate) (hperm : queue.Perm gate.queue) :
    Accounted history { gate with queue } where
  generation_eq := h.generation_eq
  latest_eq := h.latest_eq
  asked_eq := h.asked_eq
  closed := h.closed
  waiting := by
    intro ticket hticket
    exact h.waiting ticket (hperm.mem_iff.mp hticket)
  settled := by
    intro caller hcaller
    refine (h.settled caller hcaller).imp_left ?_
    rintro ⟨ticket, hticket, rfl⟩
    exact ⟨ticket, hticket.imp_left hperm.mem_iff.mpr, rfl⟩
  handed := h.handed

/-- Every gate with a history is accounted for. -/
theorem Run.accounted {history : History} {gate : Gate} (run : Run history gate) :
    Accounted history gate := by
  induction run with
  | opened => exact accounted_opened
  | starts run fresh ih => exact ih.starts _
  | enters run enter ih => exact ih.enters enter
  | answered run finish ih => exact ih.answered finish
  | passes run perm ih => exact ih.passes perm

/-! ## Calls come to an end -/

/-- A history has no events but calls, entrances and answers. -/
theorem length_eq (history : History) :
    history.length =
      (started history).length + (entered history).length + (answers history).length := by
  induction history with
  | nil => rfl
  | cons event rest ih =>
    cases event with
    | starts caller =>
      simp only [started_starts, entered_starts, answers_starts, List.length_cons]
      omega
    | enters entrance =>
      simp only [started_enters, entered_enters, answers_enters, List.length_cons]
      omega
    | answered caller answer =>
      simp only [started_answered, entered_answered, answers_answered, List.length_cons]
      omega

/-- Some of those that went in asked. -/
theorem asked_le_entered (history : History) :
    (asked history).length ≤ (entered history).length := by
  induction history with
  | nil => exact Nat.le_refl _
  | cons event rest ih =>
    cases event with
    | starts caller => exact ih
    | answered caller answer => exact ih
    | enters entrance =>
      cases entrance with
      | asks caller => exact Nat.succ_le_succ ih
      | reuses caller answer => exact Nat.le_succ_of_le ih

/-- Who came waits in the queue or went in. -/
theorem Run.started_eq {history : History} {gate : Gate} (run : Run history gate) :
    (started history).length = (entered history).length + gate.queue.length := by
  induction run with
  | opened => rfl
  | starts run fresh ih =>
    simp only [started_append, started_starts, started_nil, entered_append, entered_starts,
      entered_nil, Gate.arrive, List.length_append, List.length_cons, List.length_nil]
    omega
  | enters run enter ih =>
    rcases Gate.enter?_eq_some enter with ⟨ticket, rest, -, hqueue, hentrance⟩
    rw [hqueue, List.length_cons] at ih
    -- however it goes in, it has left the queue
    rcases hentrance with ⟨answer, -, -, rfl⟩ | ⟨-, -, rfl⟩
    all_goals
      simp only [started_append, started_enters, started_nil, entered_append, entered_enters,
        entered_nil, List.length_append, List.length_cons, List.length_nil]
      omega
  | answered run finish ih =>
    rcases Gate.finish?_eq_some finish with ⟨ticket, -, -, rfl⟩
    simpa using ih
  | passes run perm ih => exact ih.trans (congrArg _ perm.length_eq.symm)

/-- A call comes, goes in and is answered once at most. -/
theorem Run.length_le {history : History} {gate : Gate} (run : Run history gate) :
    history.length ≤ 3 * (started history).length := by
  have hasked := run.accounted.asked_eq
  have hentered := asked_le_entered history
  rw [length_eq, run.started_eq]
  omega

/-! ## Nobody waits for ever -/

/-- Nobody is at the gate. -/
def Gate.Idle (gate : Gate) : Prop :=
  gate.inside = none ∧ gate.queue = []

/-- Nothing can happen at the gate but a further call: nobody can go in, and there is nobody whom
the provider could answer. -/
def Gate.Quiet (gate : Gate) : Prop :=
  gate.enter? = none ∧ ∀ answer, gate.finish? answer = none

theorem Gate.Idle.quiet {gate : Gate} (h : gate.Idle) : gate.Quiet := by
  rcases h with ⟨hinside, hqueue⟩
  constructor
  · unfold enter?
    simp only [hinside, hqueue]
  · intro answer
    rw [finish?, hinside, Option.map_none]

/-- Nobody is left behind: as long as somebody is at the gate, somebody can go on. -/
theorem Gate.Quiet.idle {gate : Gate} (h : gate.Quiet) : gate.Idle := by
  have hinside : gate.inside = none := by
    have hfinish := h.2 (.error ⟨""⟩)
    rwa [finish?, Option.map_eq_none_iff] at hfinish
  refine ⟨hinside, ?_⟩
  cases hqueue : gate.queue with
  | nil => rfl
  | cons ticket rest =>
    rcases enter?_of_waiting hinside hqueue with ⟨entrance, next, henter, -⟩
    exact absurd (h.1.symm.trans henter) (by simp)

/-- When nothing can happen but a further call, all calls have returned. -/
theorem Run.returned_of_quiet {history : History} {gate : Gate} (run : Run history gate)
    (hquiet : gate.Quiet) (caller : Nat) (hcaller : .starts caller ∈ history) :
    ∃ answer, Returned history caller answer := by
  rcases hquiet.idle with ⟨hinside, hqueue⟩
  rcases run.accounted.settled caller hcaller with ⟨ticket, hticket, -⟩ | hreturned
  · rw [hinside, hqueue] at hticket
    exact absurd hticket (by simp)
  · exact hreturned

/-- What happens after a history without a further call, if the provider always answers the same. -/
structure GoesOn (history : History) (provide : CredentialAnswer) (later : History) (last : Gate) :
    Prop where
  run : Run (history ++ later) last
  no_calls : ∀ caller, .starts caller ∉ later
  provided : ∀ answer ∈ answers later, answer = provide

/-- If the provider answers, whoever is inside leaves. -/
theorem Run.vacates {history : History} {gate : Gate} (run : Run history gate)
    (provide : CredentialAnswer) :
    ∃ later last, GoesOn history provide later last ∧ last.inside = none ∧
      last.queue = gate.queue := by
  cases hinside : gate.inside with
  | none => exact ⟨[], gate, ⟨by simpa using run, by simp, by simp⟩, hinside, rfl⟩
  | some ticket =>
    have hfinish : gate.finish? provide = some (ticket.caller, { gate with
        generation := gate.generation + 1, latest := some provide, inside := none }) := by
      rw [Gate.finish?, hinside]
      rfl
    exact ⟨_, _, ⟨run.answered hfinish, by simp, by simp⟩, rfl, rfl⟩

/-- If the provider answers, it comes to this that nothing can happen but a further call. -/
theorem Run.completes {history : History} {gate : Gate} (run : Run history gate)
    (provide : CredentialAnswer) :
    ∃ later last, GoesOn history provide later last ∧ last.Quiet := by
  -- by induction on who waits
  generalize hwaiting : gate.queue.length = n
  induction n generalizing history gate with
  | zero =>
    rcases run.vacates provide with ⟨later, last, hlater, hinside, hqueue⟩
    rw [List.eq_nil_of_length_eq_zero hwaiting] at hqueue
    exact ⟨later, last, hlater, Gate.Idle.quiet ⟨hinside, hqueue⟩⟩
  | succ n ih =>
    rcases run.vacates provide with ⟨first, empty, hfirst, hinside, hqueue⟩
    rcases List.exists_cons_of_length_eq_add_one hwaiting with ⟨ticket, rest, hrest⟩
    rw [hrest] at hqueue hwaiting
    rcases Gate.enter?_of_waiting hinside hqueue with ⟨entrance, next, henter, hnext⟩
    rcases ih (hfirst.run.enters henter) (by rw [hnext]; exact Nat.succ.inj hwaiting) with
      ⟨later, last, hlater, hquiet⟩
    refine ⟨first ++ .enters entrance :: later, last, ⟨?_, ?_, ?_⟩, hquiet⟩
    · simpa using hlater.run
    · intro caller
      simp [hfirst.no_calls caller, hlater.no_calls caller]
    · intro answer hanswer
      rw [answers_append, answers_enters, List.mem_append] at hanswer
      exact hanswer.elim (hfirst.provided answer) (hlater.provided answer)

end GameShelf.RefreshGate
