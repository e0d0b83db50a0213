import GameShelf.Proofs.Backend.Consistency
import GameShelf.Proofs.Client.Session

/-!
# Applied at most once

A request is sent again only after the backend has refused its credential, and then nothing of it
was carried out. So its operation runs at most once, whenever the accepted token changes, and
most faults say that it has altered nothing.

* `Backend.runs`: whether the operation of a request runs.
* `Surroundings`, `shifting`: a world in which the accepted token changes and replies are late.
* `Arrival`, `arrivals`: the requests of a transcript as they reach the backend.
* `Course`: the ways in which the requests of one call can fare there.
* `AppliedOnce`: what that means for the store and the result.
* `send_appliedOnce`: it holds of every request in every such world.
-/

namespace GameShelf

/-! ## Operations that run -/

namespace Backend

/-- The operation that a request asks for. -/
def operation? (request : Request) : Option Operation :=
  (Route.ofPath? request.path).bind fun route =>
    route.operation? (if request.method = "HEAD" then "GET" else request.method)

/-- The refusal in a result. -/
def refusalIn {α : Type} : Except Answer α → Option Answer
  | .ok _ => none
  | .error refusal => some refusal

/-- The refusal of an identifier or a body without which an operation does not run. -/
def Operation.refusal? (request : Request) : Operation → Option Answer
  | library | batch | listPlaces | listStorefronts => none
  | getPlace segment | deletePlace segment | deleteCompartment segment
  | getStorefront segment | deleteStorefront segment => refusalIn (decodeId segment)
  | createPlace => refusalIn (decodeBody CreatePlace.layout request)
  | createCompartment => refusalIn (decodeBody CreateCompartment.layout request)
  | createStorefront => refusalIn (decodeBody CreateStorefront.layout request)
  | updatePlace segment =>
    (refusalIn (decodeId segment)).or (refusalIn (decodeBody UpdatePlace.layout request))
  | updateStorefront segment =>
    (refusalIn (decodeId segment)).or (refusalIn (decodeBody UpdateStorefront.layout request))

/-- Whether an operation runs for a request that is authorized. -/
def runs (request : Request) : Bool :=
  (operation? request).any fun operation => (operation.refusal? request).isNone

theorem refusalIn_eq_some {α : Type} {result : Except Answer α} {refusal : Answer} :
    refusalIn result = some refusal ↔ result = .error refusal := by
  cases result with
  | ok a => simp [refusalIn]
  | error other => simp [refusalIn]

section

variable {id now : String} {request : Request} {store : Store} {refusal : Answer}

/-- Refusals are no successes. -/
theorem Operation.status_of_refusal {operation : Operation}
    (h : operation.refusal? request = some refusal) : isSuccess refusal.status = false := by
  have hid (segment : String) (hsome : refusalIn (decodeId segment) = some refusal) :
      isSuccess refusal.status = false := by
    rw [decodeId_eq_error (refusalIn_eq_some.mp hsome)]
    rfl
  have hbody {α : Type} (layout : Decode.Layout α)
      (hsome : refusalIn (decodeBody layout request) = some refusal) :
      isSuccess refusal.status = false := by
    cases decodeBody_refusal layout request (refusalIn_eq_some.mp hsome) <;> rfl
  cases operation with
  | library | batch | listPlaces | listStorefronts => exact absurd h (by simp [refusal?])
  | getPlace segment | deletePlace segment | deleteCompartment segment
  | getStorefront segment | deleteStorefront segment => exact hid segment h
  | createPlace | createCompartment | createStorefront => exact hbody _ h
  | updatePlace segment | updateStorefront segment =>
    rcases Option.or_eq_some_iff.mp h with hsome | ⟨-, hsome⟩
    · exact hid segment hsome
    · exact hbody _ hsome

/-- A first part that is refused ends an operation. -/
theorem orRefuse_of_refusal {α : Type} {first : Except Answer α}
    (next : α → Except Answer (Answer × Store)) (h : refusalIn first = some refusal) :
    orRefuse store (first.bind next) = (refusal, store) := by
  rw [refusalIn_eq_some.mp h]
  rfl

theorem orRefuse_of_rest {α : Type} {first : Except Answer α}
    {next : α → Except Answer (Answer × Store)} (h : refusalIn first = none)
    (hnext : ∀ a, orRefuse store (next a) = (refusal, store)) :
    orRefuse store (first.bind next) = (refusal, store) := by
  cases first with
  | error other => exact absurd h (by simp [refusalIn])
  | ok a => exact hnext a

/-- An operation that does not run answers with the refusal and alters nothing. -/
theorem perform_of_refusal {operation : Operation}
    (h : operation.refusal? request = some refusal) :
    perform id now request operation store = (refusal, store) := by
  cases operation with
  | library | batch | listPlaces | listStorefronts => exact absurd h (by simp [Operation.refusal?])
  | getPlace segment | deletePlace segment | deleteCompartment segment
  | getStorefront segment | deleteStorefront segment => exact orRefuse_of_refusal _ h
  | createPlace | createCompartment | createStorefront => exact orRefuse_of_refusal _ h
  | updatePlace segment | updateStorefront segment =>
    rcases Option.or_eq_some_iff.mp h with hsome | ⟨hnone, hsome⟩
    · exact orRefuse_of_refusal _ hsome
    · exact orRefuse_of_rest hnone fun _ => orRefuse_of_refusal _ hsome

/-- Without an operation that runs nothing succeeds and nothing is altered. -/
theorem dispatch_of_not_runs (h : runs request = false) :
    isSuccess (dispatch id now request store).1.status = false ∧
      (dispatch id now request store).2 = store := by
  cases hroute : Route.ofPath? request.path with
  | none =>
    simp only [dispatch, hroute]
    exact ⟨rfl, trivial⟩
  | some route =>
    cases hoperation : route.operation?
        (if request.method = "HEAD" then "GET" else request.method) with
    | none =>
      simp only [dispatch, hroute, hoperation]
      exact ⟨rfl, trivial⟩
    | some operation =>
      simp only [runs, operation?, hroute, Option.bind_some, hoperation, Option.any_some,
        Option.isNone_eq_false_iff, Option.isSome_iff_exists] at h
      rcases h with ⟨refusal, hrefusal⟩
      simp only [dispatch, hroute, hoperation, perform_of_refusal hrefusal]
      exact ⟨Operation.status_of_refusal hrefusal, trivial⟩

/-- An operation succeeds or alters nothing. -/
theorem Alters.succeeds_or_keeps {outcome : Answer × Store} (h : Alters id now store outcome) :
    isSuccess outcome.1.status = true ∨ outcome.2 = store := by
  cases h with
  | keeps answer => exact .inr rfl
  | createsPlace input => exact .inl rfl
  | updatesPlace target input =>
    unfold Store.updatePlace
    split
    · exact .inl rfl
    · exact .inr rfl
  | deletesPlace target =>
    simp only [Store.deletePlace]
    split
    · exact .inr rfl
    · exact .inl rfl
  | createsCompartment input =>
    unfold Store.createCompartment
    split
    · exact .inl rfl
    · exact .inr rfl
  | deletesCompartment target =>
    unfold Store.deleteCompartment
    split
    · exact .inl rfl
    · exact .inr rfl
  | createsStorefront input => exact .inl rfl
  | updatesStorefront target input =>
    unfold Store.updateStorefront
    split
    · exact .inl rfl
    · exact .inr rfl
  | deletesStorefront target =>
    simp only [Store.deleteStorefront]
    split
    · exact .inr rfl
    · exact .inl rfl

end

end Backend

open Backend (Server Store isAuthorized runs)
open Rehearsal (arriving replyOf settle)

/-! ## Arrivals -/

/-- A request at the moment when it reaches the backend. -/
structure Arrival where
  request : Backend.Request
  server : Server

namespace Arrival

/-- Whether its credential is the accepted one. -/
def passes (arrival : Arrival) : Bool :=
  isAuthorized arrival.server.token arrival.request.authorization

/-- Whether its operation runs. -/
def carriesOut (arrival : Arrival) : Bool :=
  arrival.passes && runs arrival.request

/-- What the backend answers. -/
def answer (arrival : Arrival) : Backend.Answer :=
  (arrival.server.handle arrival.request).1

/-- The store that it leaves. -/
def leaves (arrival : Arrival) : Store :=
  (arrival.server.handle arrival.request).2.store

/-- Whether it alters the store. -/
def alters (arrival : Arrival) : Bool :=
  arrival.leaves ≠ arrival.server.store

variable {arrival : Arrival}

/-- A request that is refused for its credential leaves the store as it was. -/
theorem leaves_of_refused (h : arrival.passes = false) :
    arrival.leaves = arrival.server.store := by
  have hauthorized : isAuthorized arrival.server.token arrival.request.authorization = false := h
  simp [leaves, Server.handle, hauthorized]

theorem answer_of_refused (h : arrival.passes = false) :
    arrival.answer.status = unauthorized := by
  have hauthorized : isAuthorized arrival.server.token arrival.request.authorization = false := h
  simp only [answer, Server.handle, hauthorized, Bool.false_eq_true, if_false]
  split
  · rfl
  · rfl

/-- The store and the status after any other are those of its operation. -/
theorem dispatched_of_passes (h : arrival.passes = true) :
    ∃ id now, arrival.answer.status =
        (Backend.dispatch id now arrival.request arrival.server.store).1.status ∧
      arrival.leaves = (Backend.dispatch id now arrival.request arrival.server.store).2 := by
  have hauthorized : isAuthorized arrival.server.token arrival.request.authorization = true := h
  refine ⟨arrival.server.supply.id arrival.server.issued,
    arrival.server.supply.now arrival.server.issued, ?_, ?_⟩
  · simp only [answer, Server.handle, hauthorized, if_true, Server.serve]
    split
    · rfl
    · rfl
  · simp only [leaves, Server.handle, hauthorized, if_true, Server.serve]

/-- The status says whether the credential was refused. -/
theorem status_of_passes (h : arrival.passes = true) : arrival.answer.status ≠ unauthorized := by
  rcases dispatched_of_passes h with ⟨id, now, hstatus, -⟩
  rw [hstatus]
  exact Backend.dispatch_admits _ _ _ _

/-- A request that succeeds was carried out. -/
theorem carriesOut_of_success (h : isSuccess arrival.answer.status = true) :
    arrival.carriesOut = true := by
  cases hpasses : arrival.passes with
  | false =>
    rw [answer_of_refused hpasses] at h
    contradiction
  | true =>
    rcases dispatched_of_passes hpasses with ⟨id, now, hstatus, -⟩
    cases hruns : runs arrival.request with
    | false =>
      have hfailure : isSuccess (Backend.dispatch id now arrival.request
          arrival.server.store).1.status = false := (Backend.dispatch_of_not_runs hruns).1
      rw [hstatus, hfailure] at h
      contradiction
    | true => simp [carriesOut, hpasses, hruns]

/-- One that does not succeed leaves the store as it was. -/
theorem leaves_of_failure (h : isSuccess arrival.answer.status = false) :
    arrival.leaves = arrival.server.store := by
  cases hpasses : arrival.passes with
  | false => exact leaves_of_refused hpasses
  | true =>
    rcases dispatched_of_passes hpasses with ⟨id, now, hstatus, hleaves⟩
    rw [hleaves]
    rcases (Backend.dispatch_alters id now arrival.request
      arrival.server.store).succeeds_or_keeps with hsuccess | hkeeps
    · rw [hstatus, hsuccess] at h
      contradiction
    · exact hkeeps

end Arrival

/-! ## Surroundings -/

/-- Who answers for credentials, while the accepted token changes and replies are under way. -/
structure Surroundings (κ : Type) extends Custodian κ where
  /-- The token that is accepted from now on, if it changes. -/
  rotation : κ → Option String × κ
  /-- How long a reply is under way. -/
  delay : κ → Nat × κ

variable {κ : Type}

/-- The state after the accepted token may have changed. -/
def Surroundings.rotate (surroundings : Surroundings κ) : κ × Server → κ × Server :=
  fun (holder, server) =>
    match surroundings.rotation holder with
    | (some token, holder) => (holder, server.rotate token)
    | (none, holder) => (holder, server)

/-- The backend under a base address with its surroundings. Before every question the accepted
token may change. -/
def shifting (base : String) (surroundings : Surroundings κ) : World (κ × Server) where
  credential := fun state =>
    let (holder, server) := surroundings.rotate state
    let (answer, holder) := surroundings.get holder
    (answer, holder, server)
  refresh := fun state =>
    let (holder, server) := surroundings.rotate state
    let (answer, holder) := surroundings.refresh holder
    (answer, holder, server)
  exchange := fun request state =>
    let (holder, server) := surroundings.rotate state
    let (answer, server) := server.handle (arriving base request)
    let (delay, holder) := surroundings.delay holder
    let cue := settle request.timeout ⟨.ok (replyOf answer), delay⟩
    ((cue.answer, cue.delay), holder, server)

section

variable (base : String) (surroundings : Surroundings κ)

/-- The requests of a transcript as they reach the backend, from a state on. -/
def arrivals : κ × Server → List Turn → List Arrival
  | _, [] => []
  | state, .credential _ :: turns =>
    arrivals ((shifting base surroundings).credential state).2 turns
  | state, .refresh _ :: turns => arrivals ((shifting base surroundings).refresh state).2 turns
  | state, .exchange request _ _ :: turns =>
    ⟨arriving base request, (surroundings.rotate state).2⟩ ::
      arrivals ((shifting base surroundings).exchange request state).2 turns

variable (state : κ × Server)

/-- A change of the accepted token is none of the store. -/
theorem rotate_store : (surroundings.rotate state).2.store = state.2.store := by
  rcases state with ⟨holder, server⟩
  simp only [Surroundings.rotate]
  split
  · rfl
  · rfl

theorem credential_store :
    ((shifting base surroundings).credential state).2.2.store = state.2.store :=
  rotate_store surroundings state

theorem refresh_store : ((shifting base surroundings).refresh state).2.2.store = state.2.store :=
  rotate_store surroundings state

/-- What an exchange leaves is what the request leaves that reaches the backend. -/
theorem exchange_store (wire : WireRequest) :
    ((shifting base surroundings).exchange wire state).2.2.store =
      Arrival.leaves ⟨arriving base wire, (surroundings.rotate state).2⟩ := rfl

variable {base surroundings state} {wire : WireRequest} {outcome : Outcome} {duration : Nat}

/-- An exchange ends with the answer of the backend, or that comes too late. -/
theorem exchange_outcome
    (h : ((shifting base surroundings).exchange wire state).1 = (outcome, duration)) :
    outcome = .reply (replyOf
        (Arrival.answer ⟨arriving base wire, (surroundings.rotate state).2⟩)) ∨
      outcome = .elapsed := by
  have houtcome : outcome = ((shifting base surroundings).exchange wire state).1.1 := by
    rw [h]
  rw [houtcome]
  simp only [shifting, settle]
  split
  · exact .inl rfl
  · exact .inr rfl

end

/-! ## What the faults of replies say -/

/-- Whether a fault says that nothing was altered. -/
def Fault.DeniesAlteration : Fault → Prop
  | .authenticationExpired => True
  | .credentialUnavailable _ => True
  | .notFound => True
  | .status .. => True
  | _ => False

section

variable {reply : Reply}

/-- The faults of an envelope say nothing of that kind. -/
theorem Reply.failure_of_data {fault : Fault} (h : reply.data = .error fault)
    (hfault : fault.DeniesAlteration) : isSuccess reply.status = false := by
  rcases Reply.data_error h with ⟨-, message, rfl | rfl⟩ | ⟨hfailure, -⟩
  · exact hfault.elim
  · exact hfault.elim
  · exact hfailure

end

/-! ## Whole requests -/

/-- How the requests of one call fare at the backend: they are refused for their credentials, up
to one that is not. -/
inductive Course (before : Store) : List Arrival → Result Json → Store → Prop where
  /-- The request is refused and not sent again. -/
  | refused {arrival : Arrival} {result : Result Json} (h : arrival.passes = false)
      (hresult : ∀ data, result ≠ .ok data) : Course before [arrival] result before
  /-- The request is refused and sent again. -/
  | again {arrival : Arrival} {arrivals : List Arrival} {result : Result Json} {after : Store}
      (h : arrival.passes = false) (rest : Course before arrivals result after) :
      Course before (arrival :: arrivals) result after
  /-- The request is taken, and its reply is the result. -/
  | taken {arrival : Arrival} (h : arrival.passes = true) (hstore : arrival.server.store = before) :
      Course before [arrival] (replyOf arrival.answer).data arrival.leaves
  /-- The request is taken, but its reply comes too late. -/
  | late {arrival : Arrival} {address : String} (h : arrival.passes = true)
      (hstore : arrival.server.store = before) :
      Course before [arrival] (.error (.timeout address)) arrival.leaves

/-- What comes of a request that is applied at most once. -/
structure AppliedOnce (before : Store) (arrivals : List Arrival) (result : Result Json)
    (after : Store) : Prop where
  /-- The credential is accepted at most once. -/
  passes_le : (arrivals.filter Arrival.passes).length ≤ 1
  /-- The store is altered at most once. -/
  alters_le : (arrivals.filter Arrival.alters).length ≤ 1
  /-- What is left is what was there, or what the one request made of it that was accepted. -/
  left : after = before ∨ ∃ arrival, arrivals.filter Arrival.passes = [arrival] ∧
    arrival.server.store = before ∧ arrival.leaves = after
  /-- With data for a result the operation ran exactly once. -/
  ran : ∀ data, result = .ok data → ∃ arrival, arrivals.filter Arrival.carriesOut = [arrival] ∧
    arrival.server.store = before ∧ arrival.leaves = after
  /-- A fault that says so altered nothing. -/
  kept : ∀ fault, result = .error fault → fault.DeniesAlteration → after = before

section

variable {base : String} {surroundings : Surroundings κ} {state : κ × Server}
  {wire : WireRequest} {outcome : Outcome} {duration : Nat}

/-- An exchange ends with a refusal only if the credential is not accepted, and alters nothing
then. -/
theorem passes_of_refusal
    (hexchange : ((shifting base surroundings).exchange wire state).1 = (outcome, duration))
    (h : outcome.IsRefusal) :
    Arrival.passes ⟨arriving base wire, (surroundings.rotate state).2⟩ = false ∧
      ((shifting base surroundings).exchange wire state).2.2.store = state.2.store := by
  rcases exchange_outcome hexchange with rfl | rfl
  · have hpasses :
        Arrival.passes ⟨arriving base wire, (surroundings.rotate state).2⟩ = false := by
      by_contra hpasses
      rw [Bool.not_eq_false] at hpasses
      exact Arrival.status_of_passes hpasses h
    refine ⟨hpasses, ?_⟩
    rw [exchange_store, Arrival.leaves_of_refused hpasses, rotate_store]
  · exact h.elim

/-- An exchange that ends otherwise is the last one. -/
theorem course_of_verdict
    (hexchange : ((shifting base surroundings).exchange wire state).1 = (outcome, duration))
    (h : ¬ outcome.IsRefusal) (address : String) :
    Course state.2.store [⟨arriving base wire, (surroundings.rotate state).2⟩]
      (outcome.verdict address) ((shifting base surroundings).exchange wire state).2.2.store := by
  have hserver := rotate_store surroundings state
  rw [exchange_store]
  cases hpasses : Arrival.passes ⟨arriving base wire, (surroundings.rotate state).2⟩ with
  | false =>
    rw [Arrival.leaves_of_refused hpasses, hserver]
    rcases exchange_outcome hexchange with rfl | rfl
    · exact absurd (Arrival.answer_of_refused hpasses) h
    · -- a refusal that comes too late is not noticed
      exact .refused hpasses fun data => by simp [Outcome.verdict]
  | true =>
    rcases exchange_outcome hexchange with rfl | rfl
    · exact .taken hpasses hserver
    · exact .late hpasses hserver

end

section

variable {settings : Settings} {request : Request} {surroundings : Surroundings κ}
  {refreshes : Nat} {credential : Option Credential} {turns : List Turn} {result : Result Json}
  {state last : κ × Server}

/-- The exchanges of a request reach the backend in one of those ways. -/
theorem Attempts.course (h : Attempts settings request refreshes credential turns result)
    (hanswers : (shifting settings.base surroundings).Answers state turns last) :
    Course state.2.store (arrivals settings.base surroundings state turns) result
      last.2.store := by
  induction h generalizing state with
  | concluded h =>
    rcases hanswers with ⟨hexchange, rfl⟩
    exact course_of_verdict hexchange h _
  | refused h =>
    rcases hanswers with ⟨hexchange, rfl⟩
    rcases passes_of_refusal hexchange h with ⟨hpasses, hstore⟩
    rw [hstore]
    exact .refused hpasses (by simp)
  | unavailable h =>
    rcases hanswers with ⟨hexchange, hrefresh, rfl⟩
    rcases passes_of_refusal hexchange h with ⟨hpasses, hstore⟩
    rw [refresh_store, hstore]
    exact .refused hpasses (by simp)
  | renewed h rest ih =>
    rcases hanswers with ⟨hexchange, hrefresh, hanswers⟩
    rcases passes_of_refusal hexchange h with ⟨hpasses, hstore⟩
    have hcourse := ih hanswers
    rw [refresh_store, hstore] at hcourse
    exact .again hpasses hcourse

variable {before after : Store} {arrivals : List Arrival}

/-- A refused request before the others changes nothing of what comes of them. -/
theorem AppliedOnce.after_refused {arrival : Arrival} (h : arrival.passes = false)
    (rest : AppliedOnce before arrivals result after) :
    AppliedOnce before (arrival :: arrivals) result after := by
  have halters : arrival.alters = false := by
    simp [Arrival.alters, Arrival.leaves_of_refused h]
  have hcarries : arrival.carriesOut = false := by
    simp [Arrival.carriesOut, h]
  have hpasses : (arrival :: arrivals).filter Arrival.passes = arrivals.filter Arrival.passes :=
    List.filter_cons_of_neg (by simp [h])
  constructor
  case passes_le =>
    rw [hpasses]
    exact rest.passes_le
  case alters_le =>
    rw [List.filter_cons_of_neg (by simp [halters])]
    exact rest.alters_le
  case left =>
    rw [hpasses]
    exact rest.left
  case ran =>
    rw [List.filter_cons_of_neg (by simp [hcarries])]
    exact rest.ran
  case kept => exact rest.kept

/-- One request that is accepted is applied at most once. -/
theorem AppliedOnce.of_passes {arrival : Arrival} (h : arrival.passes = true)
    (hran : ∀ data, result = .ok data → isSuccess arrival.answer.status = true)
    (hkept : ∀ fault, result = .error fault → fault.DeniesAlteration →
      isSuccess arrival.answer.status = false) :
    AppliedOnce arrival.server.store [arrival] result arrival.leaves where
  passes_le := List.length_filter_le _ _
  alters_le := List.length_filter_le _ _
  left := by
    refine .inr ⟨arrival, ?_, rfl, rfl⟩
    simp [h]
  ran := by
    intro data hdata
    refine ⟨arrival, ?_, rfl, rfl⟩
    simp [Arrival.carriesOut_of_success (hran data hdata)]
  kept := by
    intro fault hfault hdenies
    exact Arrival.leaves_of_failure (hkept fault hfault hdenies)

/-- So the store is altered at most once, and the result says whether it is. -/
theorem Course.appliedOnce (h : Course before arrivals result after) :
    AppliedOnce before arrivals result after := by
  induction h with
  | refused h hresult =>
    constructor
    case passes_le => exact List.length_filter_le _ _
    case alters_le => exact List.length_filter_le _ _
    case left => exact .inl rfl
    case ran => exact fun data hdata => absurd hdata (hresult data)
    case kept => exact fun _ _ _ => rfl
  | again h rest ih => exact ih.after_refused h
  | taken h hstore =>
    subst hstore
    exact .of_passes h (fun _ hdata => Reply.success_of_data hdata)
      fun _ hfault hdenies => Reply.failure_of_data hfault hdenies
  | late h hstore =>
    subst hstore
    refine .of_passes h (fun _ hdata => absurd hdata (by simp)) ?_
    intro fault hfault hdenies
    obtain rfl := Except.error.inj hfault
    exact hdenies.elim

end

/-- A request is applied at most once, however often it is sent, whoever answers for its
credentials and whenever the accepted token changes. -/
theorem send_appliedOnce (settings : Settings) (request : Request)
    (surroundings : Surroundings κ) (state : κ × Server) :
    let world := shifting settings.base surroundings
    AppliedOnce state.2.store
      (arrivals settings.base surroundings state ((send settings request).turnsIn world state))
      ((send settings request).runIn world state).result
      ((send settings request).runIn world state).state.2.store := by
  intro world
  rcases send_attempts world settings request state with ⟨answer, turns, hturns, hattempts⟩
  have hanswers := (send settings request).answers_turnsIn world state
  rw [hturns] at hanswers ⊢
  have hcourse := hattempts.course hanswers.2
  rw [credential_store] at hcourse
  exact hcourse.appliedOnce

/-- The accepted token changes at the second question, which is the first exchange. Whoever asks for
a new credential after that gets the new token. -/
def rotatingOnce : Surroundings Nat where
  get := fun asked => (.ok ⟨"old"⟩, asked)
  refresh := fun asked => (.ok ⟨"new"⟩, asked)
  rotation := fun asked => (if asked = 1 then some "new" else none, asked + 1)
  delay := fun asked => (0, asked)

/-- A server that keeps one place and takes the old token. -/
def cellarServer : Server where
  store :=
    { places := [⟨"cellar", "Cellar", "house", none, none, "", ""⟩]
      compartments := []
      storefronts := [] }
  token := "old"
  requests := 0
  issued := 0
  supply := ⟨fun count => "new-" ++ Nat.repr count, fun _ => "2024-01-01T00:00:00Z"⟩

/-- The deletion of the place. -/
def cellarDeletion : Request :=
  .to .delete "/v1/locations/physical/cellar"

/-- The deletion is refused and sent again. Then it goes through, and the place is gone. -/
theorem cellarDeletion_appliedOnce :
    let world := shifting Settings.default.base rotatingOnce
    let run := (send Settings.default cellarDeletion).runIn world (0, cellarServer)
    let sent := arrivals Settings.default.base rotatingOnce (0, cellarServer)
      ((send Settings.default cellarDeletion).turnsIn world (0, cellarServer))
    sent.map (fun arrival => arrival.answer.status) = [401, 200] ∧
      sent.map Arrival.alters = [false, true] ∧
      run.result.toBool = true ∧
      run.state.2.store = ⟨[], [], []⟩ ∧
      AppliedOnce cellarServer.store sent run.result run.state.2.store := by
  refine ⟨?_, ?_, ?_, ?_, send_appliedOnce Settings.default cellarDeletion rotatingOnce
    (0, cellarServer)⟩
  · decide +kernel
  · decide +kernel
  · decide +kernel
  · decide +kernel

end GameShelf
