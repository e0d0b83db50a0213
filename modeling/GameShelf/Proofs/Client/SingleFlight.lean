import GameShelf.Proofs.Client.GateHistory

/-!
# One refresh for many callers

The provider is asked again only for a call that came after the last answer. So callers that come
before the first answer share it. That all of them return is no matter of the gate alone, since the
provider may take its time; but as soon as it answers somebody can go on, until nothing is left that
could happen.

* `SharesOne`: all calls return with the one answer of the provider.
* `Collapses`: what a history of calls comes to.
* `Run.asks_after_answer`: between two questions there is an answer, and after it a call.
* `Run.shares_one`: calls that come before the first answer share it.
* `Run.collapses`: every history is so, as long as the count of answers fits into a word.
-/

namespace GameShelf.RefreshGate

/-- Between two questions to the provider the first is answered, and the second is asked by a call
that comes after the answer. -/
def AsksAfterAnswer (history : History) : Prop :=
  ∀ early mid late first second,
    history = early ++ .enters (.asks first) :: mid ++ .enters (.asks second) :: late →
    ∃ before between after answer,
      mid = before ++ .answered first answer :: between ++ .starts second :: after

/-- No call comes after an answer. -/
def StartsBeforeAnswers (history : History) : Prop :=
  ∀ before after caller answer, history = before ++ .answered caller answer :: after →
    ∀ other, .starts other ∉ after

/-- The provider was asked once and answered once, and every call has returned with that answer. -/
structure SharesOne (history : History) (answer : CredentialAnswer) : Prop where
  asked_once : (asked history).length = 1
  answered_once : answers history = [answer]
  returned : ∀ caller, .starts caller ∈ history → Returned history caller answer
  only : ∀ caller other, Returned history caller other → other = answer

/-- What a history of calls comes to, however they pass one another and whenever the provider
answers. -/
structure Collapses (history : History) (gate : Gate) : Prop where
  asks_after_answer : AsksAfterAnswer history
  /-- Without further calls it comes to an end. -/
  length_le : history.length ≤ 3 * (started history).length
  /-- At the end, when nothing can happen but a further call, every call has returned. -/
  returned : gate.Quiet → ∀ caller, .starts caller ∈ history →
    ∃ answer, Returned history caller answer
  /-- The end can be reached, whatever the provider answers. -/
  completes : ∀ provide, ∃ later last, GoesOn history provide later last ∧ last.Quiet
  /-- If all calls came before the first answer, at the end they share it. -/
  shared : StartsBeforeAnswers history → gate.Quiet → (∃ caller, .starts caller ∈ history) →
    ∃ answer, SharesOne history answer

/-- A count of answers below the number of words is told by its word. -/
theorem ofNat_inj {a b : Nat} (ha : a < UInt64.size) (hb : b < UInt64.size)
    (h : UInt64.ofNat a = UInt64.ofNat b) : a = b := by
  have hmod := congrArg UInt64.toNat h
  rw [UInt64.toNat_ofNat_of_lt' ha, UInt64.toNat_ofNat_of_lt' hb] at hmod
  exact hmod

/-- Who asks although there was an answer came after all answers. -/
theorem Accounted.starts_after_answers {history : History} {gate : Gate} {ticket : Ticket}
    (h : Accounted history gate) (hmem : ticket ∈ gate.queue)
    (hbound : (answers history).length < UInt64.size)
    (hnone : gate.answerSince? ticket = none) (hanswers : answers history ≠ []) :
    ∃ before after, history = before ++ .starts ticket.caller :: after ∧ answers after = [] := by
  rcases h.waiting ticket hmem with ⟨before, after, rfl, hobserved⟩
  refine ⟨before, after, rfl, ?_⟩
  have hgeneration : gate.generation = ticket.observed := by
    unfold Gate.answerSince? at hnone
    split at hnone
    · assumption
    · -- there is an answer to hand on
      rw [h.latest_eq, List.getLast?_eq_none_iff] at hnone
      exact absurd hnone hanswers
  rw [h.generation_eq, hobserved] at hgeneration
  simp only [answers_append, answers_starts, List.length_append] at hgeneration hbound
  have hcount := ofNat_inj hbound (by omega) hgeneration
  exact List.eq_nil_of_length_eq_zero (by omega)

/-- An event before the last call without answers after it. -/
theorem split_starts {first between before after : History} {event : Event} {caller : Nat}
    (hevent : event ∉ after) (hne : event ≠ .starts caller)
    (h : first ++ event :: between = before ++ .starts caller :: after) :
    ∃ rest, between = rest ++ .starts caller :: after := by
  rcases List.append_eq_append_iff.mp h with ⟨mid, rfl, hmid⟩ | ⟨mid, rfl, hmid⟩
  · -- the event stands before the call
    cases mid with
    | nil =>
      rw [List.nil_append] at hmid
      exact absurd (List.cons.inj hmid).1 hne
    | cons head rest =>
      rw [List.cons_append] at hmid
      exact ⟨rest, (List.cons.inj hmid).2⟩
  · -- or after it, where it cannot be
    cases mid with
    | nil =>
      rw [List.nil_append] at hmid
      exact absurd (List.cons.inj hmid).1.symm hne
    | cons head rest =>
      rw [List.cons_append] at hmid
      rcases List.cons.inj hmid with ⟨-, rfl⟩
      exact absurd (List.mem_append_right _ List.mem_cons_self) hevent

/-- A history goes on to be so unless a further question makes trouble. -/
theorem AsksAfterAnswer.append {history : History} (h : AsksAfterAnswer history) {last : Event}
    (hlast : ∀ early mid first second,
      last = .enters (.asks second) → history = early ++ .enters (.asks first) :: mid →
      ∃ before between after answer,
        mid = before ++ .answered first answer :: between ++ .starts second :: after) :
    AsksAfterAnswer (history ++ [last]) := by
  intro early mid late first second hsplit
  rcases split_last hsplit with ⟨hhistory, heq, -⟩ | ⟨rest, rfl, hhistory⟩
  · exact hlast early mid first second heq hhistory
  · exact h early mid rest first second hhistory

/-- Who asks comes after the answers to all earlier questions. -/
theorem Accounted.asks_after {history : History} {gate next : Gate} {entrance : Entrance}
    (h : Accounted history gate) (hbound : (answers history).length < UInt64.size)
    (henter : gate.enter? = some (entrance, next)) (early mid : History) (first second : Nat)
    (hask : Event.enters entrance = .enters (.asks second))
    (hhistory : history = early ++ .enters (.asks first) :: mid) :
    ∃ before between after answer,
      mid = before ++ .answered first answer :: between ++ .starts second :: after := by
  rcases Gate.enter?_eq_some henter with ⟨ticket, rest, hinside, hqueue, hentrance⟩
  rcases hentrance with ⟨answer, -, rfl, -⟩ | ⟨hnone, rfl, -⟩
  · exact absurd hask (by simp)
  obtain rfl := Entrance.asks.inj (Event.enters.inj hask)
  -- nobody is inside, so the first question is answered
  obtain ⟨answer, hanswer⟩ : ∃ answer, .answered first answer ∈ mid := by
    rcases h.closed early mid first hhistory with hanswer | ⟨other, hother, -⟩
    · exact hanswer
    · rw [hinside] at hother
      exact absurd hother (by simp)
  have hmem : answer ∈ answers history := by
    rw [mem_answers, hhistory]
    exact ⟨first, List.mem_append_right _ (List.mem_cons_of_mem _ hanswer)⟩
  have hticket : ticket ∈ gate.queue := by
    rw [hqueue]
    exact List.mem_cons_self
  rcases h.starts_after_answers hticket hbound hnone (List.ne_nil_of_mem hmem) with
    ⟨before, after, hstarts, hafter⟩
  -- and the call that asks now came after that answer
  rcases List.append_of_mem hanswer with ⟨earlier, between, rfl⟩
  have hlate : .answered first answer ∉ after := by
    intro hin
    have := mem_answers.mpr ⟨first, hin⟩
    rw [hafter] at this
    exact absurd this List.not_mem_nil
  have hsplit : (early ++ .enters (.asks first) :: earlier) ++ .answered first answer :: between =
      before ++ .starts ticket.caller :: after := by
    rw [← hstarts, hhistory, List.append_assoc, List.cons_append]
  rcases split_starts hlate (by simp) hsplit with ⟨later, rfl⟩
  exact ⟨earlier, later, after, answer, by simp⟩

/-- Between two questions to the provider the first is answered, and the second is asked by a call
that comes after the answer. -/
theorem Run.asks_after_answer {history : History} {gate : Gate} (run : Run history gate)
    (hbound : (answers history).length < UInt64.size) : AsksAfterAnswer history := by
  induction run with
  | opened =>
    intro early mid late first second h
    exact absurd h (by simp)
  | passes run perm ih => exact ih hbound
  | starts run fresh ih =>
    rw [answers_append, List.length_append] at hbound
    exact (ih (by omega)).append fun _ _ _ _ hask => absurd hask (by simp)
  | answered run finish ih =>
    rw [answers_append, List.length_append] at hbound
    exact (ih (by omega)).append fun _ _ _ _ hask => absurd hask (by simp)
  | enters run enter ih =>
    rw [answers_append, List.length_append] at hbound
    exact (ih (by omega)).append (run.accounted.asks_after (by omega) enter)

/-! ## One answer for all -/

/-- The first question of a history, and the history from there. -/
theorem asked_eq_cons {history : History} {caller : Nat} {callers : List Nat}
    (h : asked history = caller :: callers) :
    ∃ before after, history = before ++ .enters (.asks caller) :: after ∧
      asked after = callers := by
  rcases List.filterMap_eq_cons_iff.mp h with ⟨before, event, after, rfl, -, hevent, hrest⟩
  refine ⟨before, after, ?_, hrest⟩
  cases event with
  | starts other => exact absurd hevent (by simp)
  | answered other answer => exact absurd hevent (by simp)
  | enters entrance =>
    cases entrance with
    | reuses other answer => exact absurd hevent (by simp)
    | asks other =>
      obtain rfl := Option.some.inj hevent
      rfl

/-- If no call comes after an answer, at most one question is asked. -/
theorem AsksAfterAnswer.asked_le_one {history : History} (h : AsksAfterAnswer history)
    (hstarts : StartsBeforeAnswers history) : (asked history).length ≤ 1 := by
  cases hasked : asked history with
  | nil => exact Nat.zero_le 1
  | cons first callers =>
    cases callers with
    | nil => exact Nat.le_refl 1
    | cons second callers =>
      rcases asked_eq_cons hasked with ⟨early, rest, rfl, hrest⟩
      rcases asked_eq_cons hrest with ⟨mid, late, rfl, -⟩
      -- the second call would come after the first answer
      rcases h early mid late first second (by simp) with ⟨before, between, after, answer, rfl⟩
      refine absurd ?_ (hstarts (early ++ .enters (.asks first) :: before)
        (between ++ .starts second :: after ++ .enters (.asks second) :: late) first answer
        (by simp) second)
      simp

/-- Calls that come before the first answer have all returned with it when nothing can happen but a
further call. -/
theorem Run.shares_one {history : History} {gate : Gate} (run : Run history gate)
    (hbound : (answers history).length < UInt64.size) (hstarts : StartsBeforeAnswers history)
    (hquiet : gate.Quiet) (hsome : ∃ caller, .starts caller ∈ history) :
    ∃ answer, SharesOne history answer := by
  have haccounted := run.accounted
  have hreturned := run.returned_of_quiet hquiet
  have hle := (run.asks_after_answer hbound).asked_le_one hstarts
  have hcount := haccounted.asked_eq
  rw [hquiet.idle.1, Option.toList_none, List.length_nil, Nat.add_zero] at hcount
  rcases hsome with ⟨caller, hcaller⟩
  rcases hreturned caller hcaller with ⟨answer, hanswer⟩
  have hmem := haccounted.handed caller answer hanswer
  have hpos := List.length_pos_of_mem hmem
  have hone : answers history = [answer] := by
    obtain ⟨only, honly⟩ := List.length_eq_one_iff.mp (by omega : (answers history).length = 1)
    rw [honly, List.mem_singleton] at hmem
    rw [honly, hmem]
  -- only one answer was there to return with
  have hsame : ∀ caller other, Returned history caller other → other = answer := by
    intro caller other hother
    have hin := haccounted.handed caller other hother
    rw [hone] at hin
    exact List.mem_singleton.mp hin
  refine ⟨answer, by rw [hcount, hone]; rfl, hone, fun caller hcaller => ?_, hsame⟩
  rcases hreturned caller hcaller with ⟨other, hother⟩
  exact hsame caller other hother ▸ hother

/-- The provider is asked again only after its last answer, every call returns, and calls that come
before the first answer share it. -/
theorem Run.collapses {history : History} {gate : Gate} (run : Run history gate)
    (hbound : (answers history).length < UInt64.size) : Collapses history gate where
  asks_after_answer := run.asks_after_answer hbound
  length_le := run.length_le
  returned := run.returned_of_quiet
  completes := run.completes
  shared := run.shares_one hbound

/-- Calls that come while there is no answer come before the first one. -/
theorem startsBeforeAnswers_append {first later : History} (hfirst : answers first = [])
    (hlater : ∀ caller, .starts caller ∉ later) : StartsBeforeAnswers (first ++ later) := by
  intro before after caller answer h other hother
  rcases List.append_eq_append_iff.mp h with ⟨mid, -, hmid⟩ | ⟨mid, hmid, hrest⟩
  · -- the answer comes later, and so does all that follows it
    refine hlater other ?_
    rw [hmid]
    exact List.mem_append_right _ (List.mem_cons_of_mem _ hother)
  · cases mid with
    | nil =>
      rw [List.nil_append] at hrest
      exact hlater other (hrest ▸ List.mem_cons_of_mem _ hother)
    | cons head rest =>
      -- there is no answer before
      rw [List.cons_append] at hrest
      have hhead := (List.cons.inj hrest).1
      have hmem : answer ∈ answers first :=
        mem_answers.mpr
          ⟨caller, by rw [hmid, hhead]; exact List.mem_append_right _ List.mem_cons_self⟩
      rw [hfirst] at hmem
      exact absurd hmem List.not_mem_nil

/-- Three callers come before the provider has answered, one of them while it is asked, and leave
with one credential. -/
def sharedRefresh : History :=
  let answer : CredentialAnswer := .ok ⟨"fresh"⟩
  [.starts 0, .starts 1, .enters (.asks 0), .starts 2, .answered 0 answer,
    .enters (.reuses 1 answer), .enters (.reuses 2 answer)]

theorem sharedRefresh_collapses :
    ∃ gate, Run sharedRefresh gate ∧ gate.Quiet ∧ (answers sharedRefresh).length < UInt64.size ∧
      StartsBeforeAnswers sharedRefresh ∧ Collapses sharedRefresh gate ∧
      SharesOne sharedRefresh (.ok ⟨"fresh"⟩) := by
  have hbound : (answers sharedRefresh).length < UInt64.size := by decide
  have hfirst : answers [.starts 0, .starts 1, .enters (.asks 0), .starts 2] = [] := rfl
  have hstarts : StartsBeforeAnswers sharedRefresh := startsBeforeAnswers_append hfirst (by simp)
  have run : Run sharedRefresh ⟨1, some (.ok ⟨"fresh"⟩), none, []⟩ := by
    have first : Run [.starts 0] _ := Run.opened.starts (by simp)
    have second : Run [.starts 0, .starts 1] _ := first.starts (by simp)
    have asks : Run [.starts 0, .starts 1, .enters (.asks 0)] _ := second.enters rfl
    have third : Run [.starts 0, .starts 1, .enters (.asks 0), .starts 2] _ :=
      asks.starts (by simp)
    have answered : Run [.starts 0, .starts 1, .enters (.asks 0), .starts 2,
        .answered 0 (.ok ⟨"fresh"⟩)] _ := third.answered rfl
    have reuses : Run [.starts 0, .starts 1, .enters (.asks 0), .starts 2,
        .answered 0 (.ok ⟨"fresh"⟩), .enters (.reuses 1 (.ok ⟨"fresh"⟩))] _ :=
      answered.enters rfl
    exact reuses.enters rfl
  have hquiet : Gate.Quiet ⟨1, some (.ok ⟨"fresh"⟩), none, []⟩ := Gate.Idle.quiet ⟨rfl, rfl⟩
  have hcollapses := run.collapses hbound
  rcases hcollapses.shared hstarts hquiet ⟨0, List.mem_cons_self⟩ with ⟨answer, hshares⟩
  -- the one answer of the history is the credential
  obtain rfl : answer = .ok ⟨"fresh"⟩ := (List.singleton_inj.mp hshares.answered_once).symm
  exact ⟨_, run, hquiet, hbound, hstarts, hcollapses, hshares⟩

end GameShelf.RefreshGate
