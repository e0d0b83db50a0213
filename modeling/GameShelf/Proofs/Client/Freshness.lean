import GameShelf.Proofs.Client.GateHistory

/-!
# Nobody gets an old answer

Calls come to a gate, wait and leave with an answer of the provider. Here a call may also be given
up, in the queue or while the provider works for it, and then its question is dropped. Whatever
the order of all this, the provider works on one question at a time, and an answer that was there
when a call came is not handed to it.

* `Turn`, `Leads`: what can happen, and the courses that lead to a gate.
* `inFlight`: the calls for which the provider works.
* `Event.Justified`: what an event says about the history before it.
* `Kept`, `Leads.kept`: what a gate says about the history that led to it.
* `Leads.servesFresh`: who asks, who shares, and which answers are handed out.
-/

namespace GameShelf.RefreshGate

/-- What comes next at a gate whose callers may give up. -/
inductive Turn where
  | event (event : Event)
  /-- A call is given up. -/
  | givenUp (caller : Nat)

/-- What came, oldest first. -/
abbrev Course := List Turn

/-- The history of the calls in a course. -/
def events : Course → History :=
  List.filterMap fun
    | .event event => some event
    | .givenUp _ => none

/-- A gate that a call has left without an answer. -/
def Gate.without (gate : Gate) (caller : Nat) : Gate :=
  { gate with
    inside := gate.inside.filter fun ticket => ticket.caller != caller
    queue := gate.queue.filter fun ticket => ticket.caller != caller }

/-- The courses that lead from an opened gate to a gate. Every call has a number of its own. -/
inductive Leads : Course → Gate → Prop where
  | opened : Leads [] Gate.opened
  | starts {course : Course} {gate : Gate} {caller : Nat} (leads : Leads course gate)
      (fresh : .starts caller ∉ events course) :
      Leads (course ++ [.event (.starts caller)]) (gate.arrive caller)
  | enters {course : Course} {gate next : Gate} {entrance : Entrance} (leads : Leads course gate)
      (enter : gate.enter? = some (entrance, next)) :
      Leads (course ++ [.event (.enters entrance)]) next
  | answered {course : Course} {gate next : Gate} {caller : Nat} {answer : CredentialAnswer}
      (leads : Leads course gate) (finish : gate.finish? answer = some (caller, next)) :
      Leads (course ++ [.event (.answered caller answer)]) next
  /-- Callers that wait pass one another. -/
  | passes {course : Course} {gate : Gate} {queue : List Ticket} (leads : Leads course gate)
      (perm : queue.Perm gate.queue) :
      Leads course { gate with queue }
  | givenUp {course : Course} {gate : Gate} (leads : Leads course gate) (caller : Nat) :
      Leads (course ++ [.givenUp caller]) (gate.without caller)

/-- The calls for which the provider works, after one more turn. -/
def inFlightAfter (callers : List Nat) : Turn → List Nat
  | .event (.enters (.asks caller)) => callers ++ [caller]
  | .event (.answered caller _) => callers.erase caller
  | .givenUp caller => callers.erase caller
  | _ => callers

/-- The calls for which the provider works: they have asked it, and were neither answered nor
given up. -/
def inFlight (course : Course) : List Nat :=
  course.foldl inFlightAfter []

/-! ## Parts of courses -/

@[simp] theorem events_event (course : Course) (event : Event) :
    events (course ++ [.event event]) = events course ++ [event] :=
  List.filterMap_append

@[simp] theorem events_givenUp (course : Course) (caller : Nat) :
    events (course ++ [.givenUp caller]) = events course := by
  simp [events]

theorem inFlight_concat (course : Course) (turn : Turn) :
    inFlight (course ++ [turn]) = inFlightAfter (inFlight course) turn := by
  rw [inFlight, List.foldl_append]
  rfl

theorem events_map_event (history : History) : events (history.map .event) = history := by
  rw [events, List.filterMap_map]
  exact List.filterMap_some

/-- What happens when nobody gives up leads to the same gates. -/
theorem Run.leads {history : History} {gate : Gate} (run : Run history gate) :
    Leads (history.map .event) gate := by
  induction run with
  | opened => exact .opened
  | starts run fresh ih =>
    rw [List.map_append]
    exact ih.starts (by rwa [events_map_event])
  | enters run enter ih =>
    rw [List.map_append]
    exact ih.enters enter
  | answered run finish ih =>
    rw [List.map_append]
    exact ih.answered finish
  | passes run perm ih => exact ih.passes perm

/-! ## Events and what was before them -/

/-- A call has asked the provider since it came, and there was no answer since it asked. -/
def Asks (history : History) (caller : Nat) : Prop :=
  ∃ early mid late, history = early ++ .starts caller :: mid ++ .enters (.asks caller) :: late ∧
    answers late = []

/-- The last answer of all came after a call did. -/
def AnsweredSince (history : History) (caller : Nat) (answer : CredentialAnswer) : Prop :=
  ∃ early mid other late,
    history = early ++ .starts caller :: mid ++ .answered other answer :: late ∧
      answers late = []

/-- What an event says about the history before it. -/
def Event.Justified (before : History) : Event → Prop
  | .starts caller => .starts caller ∉ before
  | .enters (.asks caller) => .starts caller ∈ before
  | .enters (.reuses caller answer) => AnsweredSince before caller answer
  | .answered caller _ => Asks before caller

/-- Every event of a history is justified by what was before. -/
def Justified (history : History) : Prop :=
  ∀ before event after, history = before ++ event :: after → event.Justified before

theorem justified_nil : Justified [] := by
  intro before event after h
  exact absurd h (by simp)

theorem Justified.append {history : History} (h : Justified history) {last : Event}
    (hlast : last.Justified history) : Justified (history ++ [last]) := by
  intro before event after hsplit
  rcases split_last hsplit with ⟨rfl, rfl, -⟩ | ⟨rest, -, hhistory⟩
  · exact hlast
  · exact h before event rest hhistory

/-- An event that is no answer leaves an open question open. -/
theorem Asks.append {history : History} {caller : Nat} (h : Asks history caller) {last : Event}
    (hlast : answers [last] = []) : Asks (history ++ [last]) caller := by
  rcases h with ⟨early, mid, late, rfl, hlate⟩
  refine ⟨early, mid, late ++ [last], by simp, ?_⟩
  rw [answers_append, hlate, hlast]
  rfl

/-- The last answer has a place in the history, and no other comes after it. -/
theorem exists_last_answer {history : History} {answer : CredentialAnswer}
    (h : (answers history).getLast? = some answer) :
    ∃ mid other late, history = mid ++ .answered other answer :: late ∧ answers late = [] := by
  rcases List.getLast?_eq_some_iff.mp h with ⟨others, hanswers⟩
  rcases List.filterMap_eq_append_iff.mp hanswers with ⟨before, rest, rfl, -, hrest⟩
  rcases List.filterMap_eq_cons_iff.mp hrest with ⟨skipped, event, late, rfl, -, hevent, hlate⟩
  cases event with
  | starts caller => exact absurd hevent (by simp)
  | enters entrance => exact absurd hevent (by simp)
  | answered other given =>
    obtain rfl := Option.some.inj hevent
    exact ⟨before ++ skipped, other, late, by simp, hlate⟩

/-- A call that finds another count of answers than when it came finds an answer that came since. -/
theorem Waits.answeredSince {history : History} {ticket : Ticket} (h : Waits history ticket)
    (hcount : UInt64.ofNat (answers history).length ≠ ticket.observed)
    {answer : CredentialAnswer} (hlatest : (answers history).getLast? = some answer) :
    AnsweredSince history ticket.caller answer := by
  rcases h with ⟨before, after, rfl, hobserved⟩
  rw [answers_append, answers_starts] at hcount hlatest
  rw [List.getLast?_append] at hlatest
  cases hlast : (answers after).getLast? with
  | none =>
    -- no answer came since, so the counts are equal
    rw [List.getLast?_eq_none_iff] at hlast
    rw [hlast, List.append_nil] at hcount
    exact absurd hobserved.symm hcount
  | some since =>
    rw [hlast, Option.some_or, Option.some.injEq] at hlatest
    rw [hlatest] at hlast
    rcases exists_last_answer hlast with ⟨mid, other, late, rfl, hlate⟩
    exact ⟨before, mid, other, late, by simp, hlate⟩

/-! ## What a gate says about its course -/

/-- What a gate says about the history of its calls, whether or not some were given up. -/
structure Kept (history : History) (gate : Gate) : Prop where
  /-- The generation counts the answers. -/
  generation_eq : gate.generation = UInt64.ofNat (answers history).length
  /-- The latest answer is kept. -/
  latest_eq : gate.latest = (answers history).getLast?
  /-- Who is in the queue came before. -/
  waiting : ∀ ticket ∈ gate.queue, Waits history ticket
  /-- Who is inside has asked, and there was no answer since. -/
  asking : ∀ ticket, gate.inside = some ticket → Asks history ticket.caller
  justified : Justified history

theorem kept_opened : Kept [] Gate.opened where
  generation_eq := rfl
  latest_eq := rfl
  waiting := by
    intro ticket h
    exact absurd h List.not_mem_nil
  asking := by
    intro ticket h
    exact absurd h (by simp [Gate.opened])
  justified := justified_nil

theorem Kept.starts {history : History} {gate : Gate} (h : Kept history gate) {caller : Nat}
    (fresh : .starts caller ∉ history) :
    Kept (history ++ [.starts caller]) (gate.arrive caller) where
  generation_eq := by simpa [Gate.arrive] using h.generation_eq
  latest_eq := by simpa [Gate.arrive] using h.latest_eq
  waiting := by
    intro ticket hticket
    rcases List.mem_append.mp hticket with hold | hnew
    · exact (h.waiting ticket hold).append _
    · obtain rfl := List.mem_singleton.mp hnew
      exact ⟨history, [], rfl, h.generation_eq⟩
  asking := by
    intro ticket hticket
    exact (h.asking ticket hticket).append rfl
  justified := h.justified.append fresh

/-- A call that goes in and finds an answer leaves with the last one, which came after it. -/
theorem Kept.enters_reuses {history : History} {gate : Gate} (h : Kept history gate)
    {ticket : Ticket} {rest : List Ticket} {answer : CredentialAnswer}
    (hinside : gate.inside = none) (hqueue : gate.queue = ticket :: rest)
    (hanswer : gate.answerSince? ticket = some answer) :
    Kept (history ++ [.enters (.reuses ticket.caller answer)]) { gate with queue := rest } := by
  have hfound : gate.generation ≠ ticket.observed ∧ gate.latest = some answer := by
    unfold Gate.answerSince? at hanswer
    split at hanswer
    · exact absurd hanswer (by simp)
    · rename_i hne
      exact ⟨hne, hanswer⟩
  have hticket : Waits history ticket := by
    apply h.waiting
    rw [hqueue]
    exact List.mem_cons_self
  constructor
  case generation_eq => simpa using h.generation_eq
  case latest_eq => simpa using h.latest_eq
  case waiting =>
    intro other hother
    exact (h.waiting other (hqueue ▸ List.mem_cons_of_mem _ hother)).append _
  case asking =>
    intro other hother
    exact absurd (hinside.symm.trans hother) (by simp)
  case justified =>
    refine h.justified.append (hticket.answeredSince ?_ ?_)
    · rw [← h.generation_eq]
      exact hfound.1
    · rw [← h.latest_eq]
      exact hfound.2

/-- Otherwise it goes in and asks. -/
theorem Kept.enters_asks {history : History} {gate : Gate} (h : Kept history gate)
    {ticket : Ticket} {rest : List Ticket} (hqueue : gate.queue = ticket :: rest) :
    Kept (history ++ [.enters (.asks ticket.caller)])
      { gate with inside := some ticket, queue := rest } := by
  obtain ⟨before, after, hhistory, -⟩ : Waits history ticket := by
    apply h.waiting
    rw [hqueue]
    exact List.mem_cons_self
  constructor
  case generation_eq => simpa using h.generation_eq
  case latest_eq => simpa using h.latest_eq
  case waiting =>
    intro other hother
    exact (h.waiting other (hqueue ▸ List.mem_cons_of_mem _ hother)).append _
  case asking =>
    intro other hother
    obtain rfl := Option.some.inj hother
    rw [hhistory]
    exact ⟨before, after, [], rfl, rfl⟩
  case justified =>
    have hcame : .starts ticket.caller ∈ history := by
      rw [hhistory]
      exact List.mem_append_right _ List.mem_cons_self
    exact h.justified.append hcame

theorem Kept.enters {history : History} {gate next : Gate} {entrance : Entrance}
    (h : Kept history gate) (henter : gate.enter? = some (entrance, next)) :
    Kept (history ++ [.enters entrance]) next := by
  rcases Gate.enter?_eq_some henter with ⟨ticket, rest, hinside, hqueue, hentrance⟩
  rcases hentrance with ⟨answer, hanswer, rfl, rfl⟩ | ⟨-, rfl, rfl⟩
  · exact h.enters_reuses hinside hqueue hanswer
  · exact h.enters_asks hqueue

/-- Who leaves with the answer of the provider was the one who asked. -/
theorem Kept.answered {history : History} {gate next : Gate} {caller : Nat}
    {answer : CredentialAnswer} (h : Kept history gate)
    (hfinish : gate.finish? answer = some (caller, next)) :
    Kept (history ++ [.answered caller answer]) next := by
  rcases Gate.finish?_eq_some hfinish with ⟨ticket, hinside, rfl, rfl⟩
  constructor
  case generation_eq =>
    rw [h.generation_eq]
    simp
  case latest_eq => simp
  case waiting =>
    intro other hother
    exact (h.waiting other hother).append _
  case asking =>
    intro other hother
    exact absurd hother (by simp)
  case justified => exact h.justified.append (h.asking ticket hinside)

/-- Those that are left at a gate may stand in any order, and some may be missing. -/
theorem Kept.remains {history : History} {gate left : Gate} (h : Kept history gate)
    (hgeneration : left.generation = gate.generation) (hlatest : left.latest = gate.latest)
    (hqueue : ∀ ticket ∈ left.queue, ticket ∈ gate.queue)
    (hinside : ∀ ticket, left.inside = some ticket → gate.inside = some ticket) :
    Kept history left where
  generation_eq := hgeneration.trans h.generation_eq
  latest_eq := hlatest.trans h.latest_eq
  waiting := by
    intro ticket hticket
    exact h.waiting ticket (hqueue ticket hticket)
  asking := by
    intro ticket hticket
    exact h.asking ticket (hinside ticket hticket)
  justified := h.justified

/-- Every gate keeps account of the course that led to it. -/
theorem Leads.kept {course : Course} {gate : Gate} (leads : Leads course gate) :
    Kept (events course) gate := by
  induction leads with
  | opened => exact kept_opened
  | starts leads fresh ih =>
    rw [events_event]
    exact ih.starts fresh
  | enters leads enter ih =>
    rw [events_event]
    exact ih.enters enter
  | answered leads finish ih =>
    rw [events_event]
    exact ih.answered finish
  | passes leads perm ih =>
    exact ih.remains rfl rfl (fun _ hticket => perm.mem_iff.mp hticket) fun _ hinside => hinside
  | givenUp leads caller ih =>
    rw [events_givenUp]
    exact ih.remains rfl rfl (fun _ hticket => (List.mem_filter.mp hticket).1)
      fun _ hinside => Option.eq_some_of_filter_eq_some hinside

/-- The provider works for who is inside, and for nobody else. -/
theorem Leads.inFlight_eq {course : Course} {gate : Gate} (leads : Leads course gate) :
    inFlight course = (gate.inside.map Ticket.caller).toList := by
  induction leads with
  | opened => rfl
  | passes leads perm ih => exact ih
  | starts leads fresh ih =>
    rw [inFlight_concat]
    exact ih
  | enters leads enter ih =>
    rw [inFlight_concat, ih]
    rcases Gate.enter?_eq_some enter with ⟨ticket, rest, hinside, -, hentrance⟩
    rw [hinside]
    -- who leaves at once does not ask, and who asks finds nobody inside
    rcases hentrance with ⟨answer, -, rfl, rfl⟩ | ⟨-, rfl, rfl⟩
    · simp [inFlightAfter, hinside]
    · rfl
  | answered leads finish ih =>
    rcases Gate.finish?_eq_some finish with ⟨ticket, hinside, rfl, rfl⟩
    rw [inFlight_concat, ih, hinside]
    simp [inFlightAfter]
  | @givenUp course gate leads caller ih =>
    rw [inFlight_concat, ih]
    cases hinside : gate.inside with
    | none => simp [inFlightAfter, Gate.without, hinside]
    | some ticket =>
      by_cases hcaller : ticket.caller = caller
      · simp [inFlightAfter, Gate.without, hinside, hcaller]
      · simp [inFlightAfter, Gate.without, hinside, hcaller, Option.filter_some]

/-! ## Which answers are handed out -/

/-- What callers get in a course. -/
structure ServesFresh (course : Course) : Prop where
  /-- The provider works for one call at most. -/
  one_inFlight : (inFlight course).length ≤ 1
  /-- A call that leaves with its own answer has asked since it came, and there was no other answer
  since it asked. -/
  own : ∀ before after caller answer,
    events course = before ++ .answered caller answer :: after → Asks before caller
  /-- A call that leaves with the answer of another gets the last one of all, whatever it says, and
  that came after the call. -/
  shared : ∀ before after caller answer,
    events course = before ++ .enters (.reuses caller answer) :: after →
      AnsweredSince before caller answer
  /-- Either way the answer came after the call. -/
  since : ∀ before after caller answer, events course = before ++ .starts caller :: after →
    Returned (events course) caller answer → answer ∈ answers after
  /-- So where answers can be told apart, it is none of those that were there when the call came. -/
  withheld : ∀ before after caller answer, events course = before ++ .starts caller :: after →
    Returned (events course) caller answer → (answers (events course)).Nodup →
      answer ∉ answers before

/-- A call comes once. -/
theorem Justified.starts_unique {history early late before after : History} {caller : Nat}
    (h : Justified history) (hearly : history = early ++ .starts caller :: late)
    (hbefore : history = before ++ .starts caller :: after) : late = after := by
  have hnotEarly : .starts caller ∉ early := h early _ late hearly
  have hnotBefore : .starts caller ∉ before := h before _ after hbefore
  rw [hearly] at hbefore
  rcases List.append_eq_append_iff.mp hbefore with ⟨mid, rfl, hmid⟩ | ⟨mid, rfl, hmid⟩
  · cases mid with
    | nil => exact (List.cons.inj hmid).2
    | cons head rest =>
      rw [← (List.cons.inj hmid).1] at hnotBefore
      exact absurd (List.mem_append_right _ List.mem_cons_self) hnotBefore
  · cases mid with
    | nil => exact (List.cons.inj hmid).2.symm
    | cons head rest =>
      rw [← (List.cons.inj hmid).1] at hnotEarly
      exact absurd (List.mem_append_right _ List.mem_cons_self) hnotEarly

/-- The answer that a call returns with came after the call. -/
theorem Justified.mem_answers_of_returned {history before after : History} {caller : Nat}
    {answer : CredentialAnswer} (h : Justified history)
    (hstarts : history = before ++ .starts caller :: after)
    (hreturned : Returned history caller answer) : answer ∈ answers after := by
  rcases hreturned with hown | hshared
  · rcases List.append_of_mem hown with ⟨asked, rest, hsplit⟩
    rcases h _ _ _ hsplit with ⟨early, mid, late, rfl, -⟩
    have hlate : history = early ++ .starts caller ::
        (mid ++ .enters (.asks caller) :: late ++ .answered caller answer :: rest) := by
      rw [hsplit]
      simp
    rw [← h.starts_unique hlate hstarts]
    exact mem_answers.mpr ⟨caller, by simp⟩
  · rcases List.append_of_mem hshared with ⟨answered, rest, hsplit⟩
    rcases h _ _ _ hsplit with ⟨early, mid, other, late, rfl, -⟩
    have hlate : history = early ++ .starts caller ::
        (mid ++ .answered other answer :: late ++ .enters (.reuses caller answer) :: rest) := by
      rw [hsplit]
      simp
    rw [← h.starts_unique hlate hstarts]
    exact mem_answers.mpr ⟨other, by simp⟩

/-- However calls come, wait, leave and give up, the provider works on one question at a time, and
every call that returns does so with an answer that came after it: its own, or the last one. -/
theorem Leads.servesFresh {course : Course} {gate : Gate} (leads : Leads course gate) :
    ServesFresh course := by
  have hjustified := leads.kept.justified
  constructor
  case one_inFlight =>
    rw [leads.inFlight_eq]
    exact Option.length_toList_le
  case own =>
    intro before after caller answer hsplit
    exact hjustified before _ after hsplit
  case shared =>
    intro before after caller answer hsplit
    exact hjustified before _ after hsplit
  case since =>
    intro before after caller answer hstarts hreturned
    exact hjustified.mem_answers_of_returned hstarts hreturned
  case withheld =>
    intro before after caller answer hstarts hreturned hnodup
    have hafter := hjustified.mem_answers_of_returned hstarts hreturned
    rw [hstarts, answers_append, answers_starts, List.nodup_append] at hnodup
    intro hbefore
    exact hnodup.2.2 answer hbefore answer hafter rfl

/-- A call asks and is given up, another one in the queue too; the next asks anew, and one that
came meanwhile leaves with its answer. -/
def givenUpRefresh : Course :=
  let answer : CredentialAnswer := .error ⟨"offline"⟩
  [.event (.starts 0), .event (.starts 1), .event (.starts 2), .event (.enters (.asks 0)),
    .givenUp 1, .givenUp 0, .event (.enters (.asks 2)), .event (.starts 3),
    .event (.answered 2 answer), .event (.enters (.reuses 3 answer))]

theorem givenUpRefresh_servesFresh :
    ∃ gate, Leads givenUpRefresh gate ∧ gate.Idle ∧ ServesFresh givenUpRefresh ∧
      Returned (events givenUpRefresh) 3 (.error ⟨"offline"⟩) := by
  have leads : Leads givenUpRefresh ⟨1, some (.error ⟨"offline"⟩), none, []⟩ := by
    have first : Run [.starts 0] _ := Run.opened.starts (by simp)
    have second : Run [.starts 0, .starts 1] _ := first.starts (by simp)
    have third : Run [.starts 0, .starts 1, .starts 2] _ := second.starts (by simp)
    have asks : Run [.starts 0, .starts 1, .starts 2, .enters (.asks 0)] _ := third.enters rfl
    have alone : Leads _ _ := (asks.leads.givenUp 1).givenUp 0
    have again : Leads (_ ++ [.event (.enters (.asks 2))]) _ := alone.enters rfl
    have late : Leads (_ ++ [.event (.starts 3)]) _ := again.starts (by simp [events])
    have answered : Leads (_ ++ [.event (.answered 2 (.error ⟨"offline"⟩))]) _ := late.answered rfl
    exact answered.enters rfl
  exact ⟨_, leads, ⟨rfl, rfl⟩, leads.servesFresh, .inr (by simp [events, givenUpRefresh])⟩

end GameShelf.RefreshGate
