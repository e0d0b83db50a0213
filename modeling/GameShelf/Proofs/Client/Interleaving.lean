import GameShelf.Proofs.Client.Retry
import Mathlib.Algebra.BigOperators.Group.Finset.Piecewise

/-!
# Requests side by side

Several dialogues are held at once. They give way to each other wherever one of them waits for an
answer, in any order, and every answer may be anything. What one of them does is told by its own
answers alone.

* `Act`, `Heard`: what a dialogue does, and the answers that it takes.
* `Dialogue.played`: what a dialogue does on some answers.
* `Interleaving`: the histories of dialogues side by side.
* `Interleaving.played`: every dialogue does in them what it does by itself.
* `Independent`: what that means for requests.
* `Interleaving.independent`: it holds of all requests of one client in every history.
-/

namespace GameShelf

/-! ## Acts -/

/-- What a dialogue asks. -/
inductive Question where
  | credential
  | refresh
  | exchange (request : WireRequest)
deriving DecidableEq

/-- An answer that a dialogue takes. -/
inductive Heard where
  | credential (answer : Except Unavailable Credential)
  | refresh (answer : Except Unavailable Credential)
  | exchange (outcome : Outcome) (duration : Nat)

/-- What a dialogue does. -/
inductive Act (α : Type) where
  | notes (entry : Telemetry.Entry)
  | asks (question : Question)
  | hears (answer : Heard)
  | returns (result : α)

namespace Act

variable {α : Type}

/-- The answers among acts. -/
def heard : List (Act α) → List Heard :=
  List.filterMap fun
    | hears answer => some answer
    | _ => none

/-- The requests that go out in acts. -/
def wired : List (Act α) → List WireRequest :=
  List.filterMap fun
    | asks (.exchange request) => some request
    | _ => none

/-- Whether an act is to ask for a new credential. -/
def isRefresh : Act α → Bool
  | asks .refresh => true
  | _ => false

/-- How the exchanges in acts ended. -/
def outcomes : List (Act α) → List Outcome :=
  List.filterMap fun
    | hears (.exchange outcome _) => some outcome
    | _ => none

end Act

namespace Dialogue

variable {α σ : Type}

/-- What a dialogue does up to its first question or its end. -/
def opening : Dialogue α → List (Act α)
  | .done result => [.returns result]
  | .note entry next => .notes entry :: next.opening
  | .credential _ => [.asks .credential]
  | .refresh _ => [.asks .refresh]
  | .exchange request _ => [.asks (.exchange request)]

/-- How a dialogue goes on when its first question gets an answer, if that fits. -/
def hear? : Dialogue α → Heard → Option (Dialogue α)
  | .note _ next, answer => next.hear? answer
  | .credential resume, .credential answer => some (resume answer)
  | .refresh resume, .refresh answer => some (resume answer)
  | .exchange _ resume, .exchange outcome duration => some (resume outcome duration)
  | _, _ => none

/-- Where a dialogue is after some answers, if they fit. -/
def after? : Dialogue α → List Heard → Option (Dialogue α)
  | dialogue, [] => some dialogue
  | dialogue, answer :: rest => (dialogue.hear? answer).bind fun next => next.after? rest

/-- What a dialogue does on some answers. -/
def played : Dialogue α → List Heard → List (Act α)
  | dialogue, [] => dialogue.opening
  | dialogue, answer :: rest =>
    dialogue.opening ++ .hears answer ::
      match dialogue.hear? answer with
      | some next => next.played rest
      | none => []

/-- What a dialogue does in a world. -/
def actsIn (world : World σ) : Dialogue α → σ → List (Act α)
  | .done result, _ => [.returns result]
  | .note entry next, state => .notes entry :: next.actsIn world state
  | .credential resume, state =>
    let (answer, state) := world.credential state
    .asks .credential :: .hears (.credential answer) :: (resume answer).actsIn world state
  | .refresh resume, state =>
    let (answer, state) := world.refresh state
    .asks .refresh :: .hears (.refresh answer) :: (resume answer).actsIn world state
  | .exchange request resume, state =>
    let ((outcome, duration), state) := world.exchange request state
    .asks (.exchange request) :: .hears (.exchange outcome duration) ::
      (resume outcome duration).actsIn world state

end Dialogue

/-! ## Histories -/

variable {α : Type}

/-- Acts of one of several dialogues, which are numbered. -/
def ofCaller (caller : Nat) (acts : List (Act α)) : List (Nat × Act α) :=
  acts.map fun act => (caller, act)

/-- What one of several dialogues does in a history. -/
def actsOf (caller : Nat) : List (Nat × Act α) → List (Act α) :=
  List.filterMap fun (other, act) => if other = caller then some act else none

/-- The histories of numbered dialogues side by side. A dialogue begins at some time, and goes on
whenever its question is answered, up to its next question or its end. Where it stands, if it has
begun, comes with the history. -/
inductive Interleaving (start : Nat → Option (Dialogue α)) :
    List (Nat × Act α) → (Nat → Option (Dialogue α)) → Prop where
  | opened : Interleaving start [] fun _ => none
  | begins {history : List (Nat × Act α)} {pool : Nat → Option (Dialogue α)} {caller : Nat}
      {dialogue : Dialogue α} (before : Interleaving start history pool)
      (hpool : pool caller = none) (hstart : start caller = some dialogue) :
      Interleaving start (history ++ ofCaller caller dialogue.opening)
        (Function.update pool caller (some dialogue))
  | goesOn {history : List (Nat × Act α)} {pool : Nat → Option (Dialogue α)} {caller : Nat}
      {dialogue next : Dialogue α} {answer : Heard} (before : Interleaving start history pool)
      (hpool : pool caller = some dialogue) (hhear : dialogue.hear? answer = some next) :
      Interleaving start (history ++ ofCaller caller (.hears answer :: next.opening))
        (Function.update pool caller (some next))

@[simp] theorem actsOf_append (caller : Nat) (first second : List (Nat × Act α)) :
    actsOf caller (first ++ second) = actsOf caller first ++ actsOf caller second :=
  List.filterMap_append

@[simp] theorem actsOf_ofCaller_self (caller : Nat) (acts : List (Act α)) :
    actsOf caller (ofCaller caller acts) = acts := by
  simp [actsOf, ofCaller, List.filterMap_map]

theorem actsOf_ofCaller_other {caller other : Nat} (h : other ≠ caller) (acts : List (Act α)) :
    actsOf caller (ofCaller other acts) = [] := by
  simp [actsOf, ofCaller, List.filterMap_map, h]

theorem mem_actsOf {caller : Nat} {act : Act α} {history : List (Nat × Act α)} :
    act ∈ actsOf caller history ↔ (caller, act) ∈ history := by
  simp [actsOf]

theorem Dialogue.heard_opening (dialogue : Dialogue α) : Act.heard dialogue.opening = [] := by
  induction dialogue with
  | note entry next ih => simpa [opening, Act.heard] using ih
  | done | credential | refresh | exchange => rfl

/-- One answer more. -/
theorem Dialogue.played_concat {first dialogue next : Dialogue α} {answers : List Heard}
    {answer : Heard} (h : first.after? answers = some dialogue)
    (hhear : dialogue.hear? answer = some next) :
    first.after? (answers ++ [answer]) = some next ∧
      first.played (answers ++ [answer]) =
        first.played answers ++ .hears answer :: next.opening := by
  induction answers generalizing first with
  | nil =>
    obtain rfl := Option.some.inj h
    simp [after?, played, hhear]
  | cons head rest ih =>
    rw [after?, Option.bind_eq_some_iff] at h
    rcases h with ⟨second, hsecond, hafter⟩
    rcases ih hafter with ⟨hlast, hplayed⟩
    constructor
    · rw [List.cons_append, after?, hsecond]
      exact hlast
    · simp only [List.cons_append, played, hsecond, hplayed, List.append_assoc]

/-- Whatever the others do, a dialogue does what it does on its own answers. -/
theorem Interleaving.played {start : Nat → Option (Dialogue α)} {history : List (Nat × Act α)}
    {pool : Nat → Option (Dialogue α)} (h : Interleaving start history pool) (caller : Nat) :
    match pool caller with
    | none => actsOf caller history = []
    | some dialogue => ∃ first, start caller = some first ∧
        first.after? (Act.heard (actsOf caller history)) = some dialogue ∧
        actsOf caller history = first.played (Act.heard (actsOf caller history)) := by
  induction h with
  | opened => rfl
  | @begins history pool other dialogue before hpool hstart ih =>
    by_cases hother : other = caller
    · subst hother
      rw [hpool] at ih
      simp only [Function.update_self, actsOf_append, actsOf_ofCaller_self, ih, List.nil_append,
        Dialogue.heard_opening]
      exact ⟨dialogue, hstart, rfl, rfl⟩
    · rw [Function.update_of_ne (Ne.symm hother), actsOf_append, actsOf_ofCaller_other hother,
        List.append_nil]
      exact ih
  | @goesOn history pool other dialogue next answer before hpool hhear ih =>
    by_cases hother : other = caller
    · subst hother
      rw [hpool] at ih
      rcases ih with ⟨first, hfirst, hafter, hplayed⟩
      rcases Dialogue.played_concat hafter hhear with ⟨hlast, hnext⟩
      have hheard : Act.heard (actsOf other history ++ .hears answer :: next.opening) =
          Act.heard (actsOf other history) ++ [answer] := by
        rw [Act.heard, List.filterMap_append]
        exact congrArg (_ ++ answer :: ·) (Dialogue.heard_opening next)
      simp only [Function.update_self, actsOf_append, actsOf_ofCaller_self, hheard]
      refine ⟨first, hfirst, hlast, ?_⟩
      rw [hnext, ← hplayed]
    · rw [Function.update_of_ne (Ne.symm hother), actsOf_append, actsOf_ofCaller_other hother,
        List.append_nil]
      exact ih

/-! ## Histories and worlds -/

/-- A world that gives the answers of a list, as long as they fit. -/
def answering : World (List Heard) where
  credential
    | .credential answer :: rest => (answer, rest)
    | answers => (.error ⟨"no answer"⟩, answers)
  refresh
    | .refresh answer :: rest => (answer, rest)
    | answers => (.error ⟨"no answer"⟩, answers)
  exchange _
    | .exchange outcome duration :: rest => ((outcome, duration), rest)
    | answers => ((.elapsed, 0), answers)

namespace Dialogue

theorem after?_note (entry : Telemetry.Entry) (next : Dialogue α) (answers : List Heard)
    (h : ((note entry next).after? answers).isSome) : (next.after? answers).isSome := by
  cases answers with
  | nil => rfl
  | cons answer rest => exact h

theorem played_note (entry : Telemetry.Entry) (next : Dialogue α) (answers : List Heard) :
    (note entry next).played answers = .notes entry :: next.played answers := by
  cases answers with
  | nil => rfl
  | cons answer rest => rfl

/-- What a dialogue has done so far is the beginning of what it does in a world, and it has done
all of that when it has come to its result. -/
def Follows (dialogue : Dialogue α) (answers : List Heard) : Prop :=
  dialogue.played answers <+: dialogue.actsIn answering answers ∧
    ∀ result, .returns result ∈ dialogue.played answers →
      dialogue.played answers = dialogue.actsIn answering answers

/-- A question without an answer is the beginning of it with the answer. -/
theorem Follows.of_question {dialogue : Dialogue α} {question : Question} {rest : List (Act α)}
    (hopening : dialogue.opening = [.asks question])
    (hacts : dialogue.actsIn answering [] = .asks question :: rest) : dialogue.Follows [] := by
  constructor
  · rw [played, hopening, hacts]
    exact List.prefix_append _ _
  · intro result hresult
    rw [played, hopening] at hresult
    exact absurd hresult (by simp)

theorem Follows.of_answer {dialogue next : Dialogue α} {question : Question} {answer : Heard}
    {rest : List Heard} (hopening : dialogue.opening = [.asks question])
    (hhear : dialogue.hear? answer = some next)
    (hacts : dialogue.actsIn answering (answer :: rest) =
      .asks question :: .hears answer :: next.actsIn answering rest)
    (hrest : next.Follows rest) : dialogue.Follows (answer :: rest) := by
  rcases hrest with ⟨hbegun, hwhole⟩
  have hplayed : dialogue.played (answer :: rest) =
      .asks question :: .hears answer :: next.played rest := by
    rw [played, hopening, hhear]
    rfl
  rw [Follows, hplayed, hacts]
  constructor
  · exact List.cons_prefix_cons.mpr ⟨rfl, List.cons_prefix_cons.mpr ⟨rfl, hbegun⟩⟩
  · intro result hresult
    have hmem : .returns result ∈ next.played rest := by
      simpa using hresult
    rw [hwhole result hmem]

theorem follows (dialogue : Dialogue α) (answers : List Heard)
    (h : (dialogue.after? answers).isSome) : dialogue.Follows answers := by
  induction dialogue generalizing answers with
  | done result =>
    cases answers with
    | nil => exact ⟨List.prefix_rfl, fun _ _ => rfl⟩
    | cons answer rest => exact absurd h (by simp [after?, hear?])
  | note entry next ih =>
    rcases ih answers (after?_note entry next answers h) with ⟨hbegun, hwhole⟩
    rw [Follows, played_note]
    refine ⟨List.cons_prefix_cons.mpr ⟨rfl, hbegun⟩, ?_⟩
    intro result hresult
    rcases List.mem_cons.mp hresult with hhead | hrest
    · exact absurd hhead (by simp)
    · exact congrArg _ (hwhole result hrest)
  | credential resume ih =>
    cases answers with
    | nil => exact .of_question rfl rfl
    | cons answer rest =>
      cases answer with
      | credential answer => exact .of_answer rfl rfl rfl (ih answer rest h)
      | refresh _ | exchange _ _ => exact absurd h (by simp [after?, hear?])
  | refresh resume ih =>
    cases answers with
    | nil => exact .of_question rfl rfl
    | cons answer rest =>
      cases answer with
      | refresh answer => exact .of_answer rfl rfl rfl (ih answer rest h)
      | credential _ | exchange _ _ => exact absurd h (by simp [after?, hear?])
  | exchange request resume ih =>
    cases answers with
    | nil => exact .of_question rfl rfl
    | cons answer rest =>
      cases answer with
      | exchange outcome duration => exact .of_answer rfl rfl rfl (ih outcome duration rest h)
      | credential _ | refresh _ => exact absurd h (by simp [after?, hear?])

section

variable {σ : Type} (world : World σ) (dialogue : Dialogue α) (state : σ)

/-- The acts of a dialogue in a world are those of its transcript. -/
theorem wired_actsIn : Act.wired (dialogue.actsIn world state) =
    (Turn.exchanges (dialogue.turnsIn world state)).map Prod.fst := by
  induction dialogue generalizing state with
  | done result => rfl
  | note entry next ih => exact ih state
  | credential resume ih => exact ih _ _
  | refresh resume ih => exact ih _ _
  | exchange request resume ih => exact congrArg (request :: ·) (ih _ _ _)

theorem outcomes_actsIn : Act.outcomes (dialogue.actsIn world state) =
    (Turn.exchanges (dialogue.turnsIn world state)).map Prod.snd := by
  induction dialogue generalizing state with
  | done result => rfl
  | note entry next ih => exact ih state
  | credential resume ih => exact ih _ _
  | refresh resume ih => exact ih _ _
  | exchange request resume ih => exact congrArg (_ :: ·) (ih _ _ _)

theorem countP_isRefresh_actsIn : (dialogue.actsIn world state).countP Act.isRefresh =
    (Turn.refreshes (dialogue.turnsIn world state)).length := by
  induction dialogue generalizing state with
  | done result => rfl
  | note entry next ih => simp [actsIn, Act.isRefresh, ih]
  | credential resume ih => simp [actsIn, Act.isRefresh, ih]
  | refresh resume ih => simp [actsIn, Act.isRefresh, List.countP_cons, ih]
  | exchange request resume ih => simp [actsIn, Act.isRefresh, ih]

end

end Dialogue

/-! ## Requests -/

/-- The status of the first reply in acts, if there was an exchange and it ended with one. -/
def Act.firstStatus? (acts : List (Act α)) : Option Nat :=
  (Act.outcomes acts).head?.bind Outcome.status?

section

variable {settings : Settings} {request : Request}

/-- A request is exchanged at most twice, and a new credential is asked for exactly if the first
reply is a refusal. -/
theorem Attempts.counts {credential : Option Credential} {turns : List Turn} {result : Result Json}
    (h : Attempts settings request 1 credential turns result) :
    (Turn.exchanges turns).length ≤ 2 ∧
      (Turn.refreshes turns).length =
        if ((Turn.exchanges turns).map Prod.snd).head?.bind Outcome.status? = some unauthorized
        then 1 else 0 := by
  cases h with
  | concluded h =>
    have hstatus := mt Outcome.status?_eq_unauthorized.mp h
    exact ⟨Nat.le_succ 1, (if_neg hstatus).symm⟩
  | unavailable h =>
    have hstatus := Outcome.status?_eq_unauthorized.mpr h
    exact ⟨Nat.le_succ 1, (if_pos hstatus).symm⟩
  | renewed h rest =>
    have hstatus := Outcome.status?_eq_unauthorized.mpr h
    cases rest with
    | concluded _ => exact ⟨Nat.le_refl 2, (if_pos hstatus).symm⟩
    | refused _ => exact ⟨Nat.le_refl 2, (if_pos hstatus).symm⟩

/-- What a request asks on some answers. -/
theorem send_asks {answers : List Heard}
    (h : ((send settings request).after? answers).isSome) :
    let acts := (send settings request).played answers
    (Act.wired acts).length ≤ 2 ∧ acts.countP Act.isRefresh ≤ 1 ∧
      ∀ result, .returns result ∈ acts → acts.countP Act.isRefresh =
        if Act.firstStatus? acts = some unauthorized then 1 else 0 := by
  intro acts
  rcases (send settings request).follows answers h with ⟨hbegun, hwhole⟩
  rcases send_attempts answering settings request answers with ⟨answer, turns, hturns, hattempts⟩
  rcases hattempts.counts with ⟨hexchanges, hrefreshes⟩
  -- on all answers of the list it does what its transcript says
  have hwired : Act.wired ((send settings request).actsIn answering answers) =
      (Turn.exchanges turns).map Prod.fst := by
    rw [Dialogue.wired_actsIn, hturns]
    rfl
  have houtcomes : Act.outcomes ((send settings request).actsIn answering answers) =
      (Turn.exchanges turns).map Prod.snd := by
    rw [Dialogue.outcomes_actsIn, hturns]
    rfl
  have hcount : ((send settings request).actsIn answering answers).countP Act.isRefresh =
      (Turn.refreshes turns).length := by
    rw [Dialogue.countP_isRefresh_actsIn, hturns]
    rfl
  refine ⟨?_, ?_, ?_⟩
  · have hle : (Act.wired acts).length ≤
        (Act.wired ((send settings request).actsIn answering answers)).length :=
      (hbegun.filterMap _).length_le
    rw [hwired, List.length_map] at hle
    omega
  · have hle : acts.countP Act.isRefresh ≤
        ((send settings request).actsIn answering answers).countP Act.isRefresh :=
      hbegun.sublist.countP_le
    rw [hcount, hrefreshes] at hle
    split at hle
    · exact hle
    · omega
  · intro result hresult
    have hacts : acts = (send settings request).actsIn answering answers := hwhole result hresult
    rw [Act.firstStatus?, hacts, hcount, houtcomes]
    exact hrefreshes

end

/-! ## All of them -/

/-- Acts are counted over all dialogues that do them. -/
theorem sum_countP_actsOf (test : Act α → Bool) {count : Nat} {history : List (Nat × Act α)}
    (h : ∀ entry ∈ history, entry.1 < count) :
    ∑ caller ∈ Finset.range count, (actsOf caller history).countP test =
      history.countP fun entry => test entry.2 := by
  induction history with
  | nil => simp [actsOf]
  | cons entry rest ih =>
    have hone (caller : Nat) : (actsOf caller (entry :: rest)).countP test =
        (actsOf caller rest).countP test +
          if entry.1 = caller then (if test entry.2 then 1 else 0) else 0 := by
      by_cases hcaller : entry.1 = caller
      · simp [actsOf, hcaller, List.countP_cons]
      · simp [actsOf, hcaller]
    have hentry := h entry List.mem_cons_self
    simp only [hone, Finset.sum_add_distrib, List.countP_cons]
    rw [ih fun other hother => h other (List.mem_cons_of_mem _ hother),
      Finset.sum_ite_eq, if_pos (Finset.mem_range.mpr hentry)]

/-- Only dialogues that were given do anything. -/
theorem Interleaving.isSome_start {start : Nat → Option (Dialogue α)}
    {history : List (Nat × Act α)} {pool : Nat → Option (Dialogue α)}
    (h : Interleaving start history pool) {entry : Nat × Act α} (hentry : entry ∈ history) :
    (start entry.1).isSome := by
  have hacts : actsOf entry.1 history ≠ [] := List.ne_nil_of_mem (mem_actsOf.mpr hentry)
  have hplayed := h.played entry.1
  split at hplayed
  · contradiction
  · rcases hplayed with ⟨first, hfirst, -⟩
    rw [hfirst]
    rfl

/-- The requests of one client, which are numbered. -/
def clones (settings : Settings) (requests : List Request) :
    Nat → Option (Dialogue (Result Json)) :=
  fun caller => requests[caller]?.map (send settings)

/-- How requests of one client fare side by side. -/
structure Independent (settings : Settings) (requests : List Request)
    (history : List (Nat × Act (Result Json))) (pool : Nat → Option (Dialogue (Result Json))) :
    Prop where
  /-- What is done for a request, from its first event to its result, is told by the request, the
  settings and its own answers. -/
  own : ∀ caller request, requests[caller]? = some request → (pool caller).isSome →
    actsOf caller history = (send settings request).played (Act.heard (actsOf caller history))
  unbegun : ∀ caller, pool caller = none → actsOf caller history = []
  /-- So it is the same in another history in which the answers to it are the same, whatever else
  is asked and answered there. -/
  undisturbed : ∀ others history' pool', Interleaving (clones settings others) history' pool' →
    ∀ caller, others[caller]? = requests[caller]? → (pool' caller).isSome = (pool caller).isSome →
      Act.heard (actsOf caller history') = Act.heard (actsOf caller history) →
        actsOf caller history' = actsOf caller history
  exchanges_le : ∀ caller, (Act.wired (actsOf caller history)).length ≤ 2
  refreshes_le : ∀ caller, (actsOf caller history).countP Act.isRefresh ≤ 1
  /-- When all have ended, a new credential was asked for as often as the first reply to a request
  was a refusal. -/
  refreshes_total :
    (∀ caller < requests.length, ∃ result, .returns result ∈ actsOf caller history) →
      history.countP (fun entry => entry.2.isRefresh) =
        ((Finset.range requests.length).filter fun caller =>
          Act.firstStatus? (actsOf caller history) = some unauthorized).card

section

variable {settings : Settings} {requests : List Request}
  {history : List (Nat × Act (Result Json))} {pool : Nat → Option (Dialogue (Result Json))}

/-- What is done for a request of a client. -/
theorem Interleaving.clone_played (h : Interleaving (clones settings requests) history pool)
    (caller : Nat) :
    (pool caller = none ∧ actsOf caller history = []) ∨
      ∃ request, requests[caller]? = some request ∧ (pool caller).isSome ∧
        ((send settings request).after? (Act.heard (actsOf caller history))).isSome ∧
        actsOf caller history =
          (send settings request).played (Act.heard (actsOf caller history)) := by
  have hplayed := h.played caller
  cases hpool : pool caller with
  | none =>
    rw [hpool] at hplayed
    exact .inl ⟨rfl, hplayed⟩
  | some dialogue =>
    rw [hpool] at hplayed
    rcases hplayed with ⟨first, hfirst, hafter, hacts⟩
    rcases Option.map_eq_some_iff.mp hfirst with ⟨request, hrequest, rfl⟩
    refine .inr ⟨request, hrequest, rfl, ?_, hacts⟩
    rw [hafter]
    rfl

/-- Requests of one client do not disturb each other, in whatever order they go on. -/
theorem Interleaving.independent (h : Interleaving (clones settings requests) history pool) :
    Independent settings requests history pool := by
  constructor
  case own =>
    intro caller request hrequest hpool
    rcases h.clone_played caller with ⟨hnone, -⟩ | ⟨other, hother, -, -, hacts⟩
    · rw [hnone] at hpool
      contradiction
    · obtain rfl := Option.some.inj (hother.symm.trans hrequest)
      exact hacts
  case unbegun =>
    intro caller hnone
    rcases h.clone_played caller with ⟨-, hacts⟩ | ⟨-, -, hpool, -⟩
    · exact hacts
    · rw [hnone] at hpool
      contradiction
  case undisturbed =>
    intro others history' pool' h' caller hothers hbegun hheard
    rcases h.clone_played caller with ⟨hnone, hacts⟩ | ⟨request, hrequest, hpool, -, hacts⟩
    · rcases h'.clone_played caller with ⟨-, hacts'⟩ | ⟨-, -, hpool', -⟩
      · rw [hacts, hacts']
      · rw [hbegun, hnone] at hpool'
        contradiction
    · rcases h'.clone_played caller with ⟨hnone', -⟩ | ⟨request', hrequest', -, -, hacts'⟩
      · rw [← hbegun, hnone'] at hpool
        contradiction
      · rw [hothers, hrequest] at hrequest'
        obtain rfl := Option.some.inj hrequest'
        rw [hacts', hheard, ← hacts]
  case exchanges_le =>
    intro caller
    rcases h.clone_played caller with ⟨-, hacts⟩ | ⟨request, -, -, hafter, hacts⟩
    · rw [hacts]
      exact Nat.zero_le 2
    · rw [hacts]
      exact (send_asks hafter).1
  case refreshes_le =>
    intro caller
    rcases h.clone_played caller with ⟨-, hacts⟩ | ⟨request, -, -, hafter, hacts⟩
    · rw [hacts]
      exact Nat.zero_le 1
    · rw [hacts]
      exact (send_asks hafter).2.1
  case refreshes_total =>
    intro hended
    have hcallers (entry) (hentry : entry ∈ history) : entry.1 < requests.length := by
      simpa [clones] using h.isSome_start hentry
    rw [← sum_countP_actsOf Act.isRefresh hcallers, Finset.card_filter]
    refine Finset.sum_congr rfl ?_
    intro caller hcaller
    rcases hended caller (Finset.mem_range.mp hcaller) with ⟨result, hresult⟩
    rcases h.clone_played caller with ⟨-, hacts⟩ | ⟨request, -, -, hafter, hacts⟩
    · rw [hacts] at hresult
      exact absurd hresult List.not_mem_nil
    · rw [hacts] at hresult ⊢
      exact (send_asks hafter).2.2 result hresult

end

/-- An attempt begins with an exchange. -/
theorem opening_attempt (settings : Settings) (request : Request) (refreshes number : Nat)
    (credential : Option Credential) :
    (attempt settings request refreshes number credential).opening =
      [.asks (.exchange (request.prepare settings credential))] := by
  rw [attempt]
  rfl

/-- The two requests of one client that cross. -/
def crossedRequests : List Request := [Request.to .get "/a", Request.to .get "/b"]

/-- How they cross. Both go out with the old credential. While that of the first, which was refused,
is replaced, the second is answered; then the first is sent again, with the new one, and
answered. -/
def crossedHistory : List (Nat × Act (Result Json)) :=
  let settings := Settings.default
  let wire (path token : String) := (Request.to .get path).prepare settings (some ⟨token⟩)
  let progress (endpoint : String) (status attempt : Nat) : Telemetry.Progress :=
    { method := .get, endpoint, status := some status, duration := 5, attempt }
  let missing (endpoint : String) (attempt : Nat) : Telemetry.Entry :=
    .event
      (.requestError (progress endpoint 404 attempt) Fault.notFound.kind Fault.notFound.message)
  [(0, .notes (.event (.breadcrumb "http" "GET /a"))), (0, .asks .credential),
   (1, .notes (.event (.breadcrumb "http" "GET /b"))), (1, .asks .credential),
   (0, .hears (.credential (.ok ⟨"old"⟩))), (0, .asks (.exchange (wire "/a" "old"))),
   (1, .hears (.credential (.ok ⟨"old"⟩))), (1, .asks (.exchange (wire "/b" "old"))),
   (0, .hears (.exchange (.reply ⟨401, ""⟩) 5)),
   (0, .notes (.event (.authError (progress "/a" 401 1) "unauthorized, refreshing credential"))),
   (0, .asks .refresh),
   (1, .hears (.exchange (.reply ⟨404, ""⟩) 5)), (1, .notes (missing "/b" 1)),
   (1, .returns (.error .notFound)),
   (0, .hears (.refresh (.ok ⟨"new"⟩))), (0, .asks (.exchange (wire "/a" "new"))),
   (0, .hears (.exchange (.reply ⟨404, ""⟩) 5)), (0, .notes (missing "/a" 2)),
   (0, .returns (.error .notFound))]

theorem crossedRequests_independent :
    ∃ pool, Interleaving (clones Settings.default crossedRequests) crossedHistory pool ∧
      Independent Settings.default crossedRequests crossedHistory pool ∧
      Act.wired (actsOf 0 crossedHistory) =
        [(Request.to .get "/a").prepare Settings.default (some ⟨"old"⟩),
         (Request.to .get "/a").prepare Settings.default (some ⟨"new"⟩)] ∧
      Act.wired (actsOf 1 crossedHistory) =
        [(Request.to .get "/b").prepare Settings.default (some ⟨"old"⟩)] ∧
      (actsOf 0 crossedHistory).countP Act.isRefresh = 1 ∧
      (actsOf 1 crossedHistory).countP Act.isRefresh = 0 ∧
      .returns (.error .notFound) ∈ actsOf 0 crossedHistory ∧
      .returns (.error .notFound) ∈ actsOf 1 crossedHistory := by
  let start := clones Settings.default crossedRequests
  have hopened : Interleaving start [] fun _ => none := .opened
  have hfirst := @Interleaving.begins _ start _ _ 0 _ hopened rfl rfl
  have hsecond := @Interleaving.begins _ start _ _ 1 _ hfirst rfl rfl
  have hcredential := @Interleaving.goesOn _ start _ _ 0 _
    (attempt Settings.default (Request.to .get "/a") 1 1 (some ⟨"old"⟩)) (.credential (.ok ⟨"old"⟩))
    hsecond rfl rfl
  have hother := @Interleaving.goesOn _ start _ _ 1 _
    (attempt Settings.default (Request.to .get "/b") 1 1 (some ⟨"old"⟩)) (.credential (.ok ⟨"old"⟩))
    hcredential rfl rfl
  have hrefused := @Interleaving.goesOn _ start _ _ 0 _ _
    (.exchange (.reply ⟨401, ""⟩) 5) hother rfl (by rw [attempt]; rfl)
  have hdone := @Interleaving.goesOn _ start _ _ 1 _ _
    (.exchange (.reply ⟨404, ""⟩) 5) hrefused rfl
    (by rw [attempt]; rfl)
  have hrefreshed := @Interleaving.goesOn _ start _ _ 0 _
    (attempt Settings.default (Request.to .get "/a") 0 2 (some ⟨"new"⟩)) (.refresh (.ok ⟨"new"⟩))
    hdone rfl rfl
  have hended := @Interleaving.goesOn _ start _ _ 0 _ _
    (.exchange (.reply ⟨404, ""⟩) 5) hrefreshed rfl
    (by rw [attempt]; rfl)
  obtain ⟨pool, hcrossed⟩ : ∃ pool, Interleaving start crossedHistory pool := by
    rw [opening_attempt, opening_attempt, opening_attempt] at hended
    exact ⟨_, hended⟩
  exact ⟨pool, hcrossed, hcrossed.independent, rfl, rfl, rfl, rfl,
    by simp [mem_actsOf, crossedHistory], by simp [mem_actsOf, crossedHistory]⟩

end GameShelf
