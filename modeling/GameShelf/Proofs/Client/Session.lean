import GameShelf.Proofs.Backend.Paths
import GameShelf.Proofs.Backend.Refusal
import GameShelf.Proofs.Client.Retry

/-!
# Talking to the backend

A client that talks to the backend, with somebody who answers for its credentials. Whether a
request is carried out is a matter of the credentials alone; then it is carried out once.

* `Custodian`, `backed`: the partners of the client.
* `admission`: the credential with which a request is carried out, or why it is not.
* `send_backed`: what comes of a request.
-/

namespace GameShelf

open Backend (Server dispatch isAuthorized)
open Rehearsal (arriving replyOf)

/-! ## Partners -/

/-- Who answers for credentials, from a state. -/
structure Custodian (κ : Type) where
  get : κ → Except Unavailable Credential × κ
  refresh : κ → Except Unavailable Credential × κ

variable {κ : Type}

/-- A world with a custodian of credentials and the backend under a base address, which answers
at once. -/
def backed (base : String) (custodian : Custodian κ) : World (κ × Server) where
  credential := fun (holder, server) =>
    let (answer, holder) := custodian.get holder
    (answer, holder, server)
  refresh := fun (holder, server) =>
    let (answer, holder) := custodian.refresh holder
    (answer, holder, server)
  exchange := fun request (holder, server) =>
    let (answer, server) := server.handle (arriving base request)
    ((.reply (replyOf answer), 0), holder, server)

section

variable (settings : Settings) (request : Request)

/-- Whether the backend takes a credential, or none, that goes with a request. -/
def accepts (token : String) (credential : Option Credential) : Bool :=
  isAuthorized token (arriving settings.base (request.prepare settings credential)).authorization

/-- The credential, or none, with which a request is carried out, or why it is not. -/
def admission (custodian : Custodian κ) (holder : κ) (token : String) :
    Except Fault (Option Credential) :=
  let current := (custodian.get holder).1.toOption
  if accepts settings request token current then .ok current
  else
    match (custodian.refresh (custodian.get holder).2).1 with
    | .error unavailable => .error (.credentialUnavailable unavailable.message)
    | .ok fresh =>
      if accepts settings request token (some fresh) then .ok (some fresh)
      else .error .authenticationExpired

/-- What the backend answers when a request is carried out, and the store that it leaves. -/
def carriedOut (credential : Option Credential) (server : Server) :
    Backend.Answer × Backend.Store :=
  dispatch (server.supply.id server.issued) (server.supply.now server.issued)
    (arriving settings.base (request.prepare settings credential)) server.store

end

/-! ## One exchange -/

/-- A request that is not authorized is refused and changes no record. -/
theorem handle_refused {server : Server} {arrived : Backend.Request}
    (h : isAuthorized server.token arrived.authorization = false)
    (hmethod : arrived.method ≠ "HEAD") :
    server.handle arrived =
      (.fail 401 "unauthorized", { server with requests := server.requests + 1 }) := by
  simp only [Server.handle, h, Bool.false_eq_true, if_false, if_neg hmethod]

/-- A request that is authorized is carried out. -/
theorem handle_authorized {server : Server} {arrived : Backend.Request}
    (h : isAuthorized server.token arrived.authorization = true)
    (hmethod : arrived.method ≠ "HEAD") :
    (server.handle arrived).1 = (dispatch (server.supply.id server.issued)
        (server.supply.now server.issued) arrived server.store).1 ∧
      (server.handle arrived).2.store = (dispatch (server.supply.id server.issued)
        (server.supply.now server.issued) arrived server.store).2 := by
  simp only [Server.handle, h, if_true, if_neg hmethod]
  exact ⟨rfl, rfl⟩

section

variable (settings : Settings) (request : Request) (custodian : Custodian κ)
  {credential : Option Credential} (holder : κ) {server : Server}

/-- An exchange with a credential that is not taken ends with a refusal. -/
theorem exchange_refused (h : accepts settings request server.token credential = false) :
    (backed settings.base custodian).exchange (request.prepare settings credential)
        (holder, server) =
      ((.reply (replyOf (.fail unauthorized "unauthorized")), 0), holder,
        { server with requests := server.requests + 1 }) := by
  simp only [backed, handle_refused h request.method.text_ne_head]
  rfl

/-- An exchange with a credential that is taken ends with the answer of the operation. -/
theorem exchange_accepted (h : accepts settings request server.token credential = true) :
    ∃ after, (backed settings.base custodian).exchange (request.prepare settings credential)
        (holder, server) =
        ((.reply (replyOf (carriedOut settings request credential server).1), 0), holder, after) ∧
      after.store = (carriedOut settings request credential server).2 := by
  rcases handle_authorized h request.method.text_ne_head with ⟨hanswer, hstore⟩
  refine ⟨_, ?_, hstore⟩
  simp only [backed, hanswer]
  rfl

/-- The answer to a credential that is not taken is a refusal. -/
theorem isRefusal_unauthorized :
    (Outcome.reply (replyOf (.fail unauthorized "unauthorized"))).IsRefusal := by
  have hstatus : (replyOf (.fail unauthorized "unauthorized")).status = unauthorized := rfl
  exact hstatus

/-- An answer of an operation is no refusal. -/
theorem not_isRefusal_carriedOut (credential : Option Credential) (server : Server) :
    ¬ (Outcome.reply (replyOf (carriedOut settings request credential server).1)).IsRefusal := by
  have hadmits : Backend.Admits (carriedOut settings request credential server).1 :=
    Backend.dispatch_admits _ _ _ _
  generalize (carriedOut settings request credential server).1 = answer at hadmits ⊢
  exact hadmits

end

section

variable {settings : Settings} {request : Request} {custodian : Custodian κ}
  {credential : Option Credential} {holder : κ} {server : Server} {outcome : Outcome}
  {duration : Nat} {turns : List Turn} {last : κ × Server}

/-- An exchange that ends with a refusal was one with a credential that is not taken, and changes
no record. -/
theorem answers_refusal (h : outcome.IsRefusal)
    (hanswers : (backed settings.base custodian).Answers (holder, server)
      (.exchange (request.prepare settings credential) outcome duration :: turns) last) :
    accepts settings request server.token credential = false ∧
      (backed settings.base custodian).Answers
        (holder, { server with requests := server.requests + 1 }) turns last := by
  rcases hanswers with ⟨hexchange, hturns⟩
  cases haccepts : accepts settings request server.token credential with
  | false =>
    rw [exchange_refused settings request custodian holder haccepts] at hturns
    exact ⟨rfl, hturns⟩
  | true =>
    rcases exchange_accepted settings request custodian holder haccepts with ⟨after, heq, -⟩
    rw [heq] at hexchange
    rcases Prod.mk.inj hexchange with ⟨rfl, -⟩
    exact absurd h (not_isRefusal_carriedOut settings request credential server)

/-- An exchange that ends otherwise was one with a credential that is taken. -/
theorem answers_verdict (h : ¬ outcome.IsRefusal)
    (hanswers : (backed settings.base custodian).Answers (holder, server)
      [.exchange (request.prepare settings credential) outcome duration] last) :
    accepts settings request server.token credential = true ∧
      outcome.verdict (settings.address request.path) =
        (replyOf (carriedOut settings request credential server).1).data ∧
      last.2.store = (carriedOut settings request credential server).2 := by
  rcases hanswers with ⟨hexchange, hlast⟩
  cases haccepts : accepts settings request server.token credential with
  | false =>
    rw [exchange_refused settings request custodian holder haccepts] at hexchange
    rcases Prod.mk.inj hexchange with ⟨rfl, -⟩
    exact absurd isRefusal_unauthorized h
  | true =>
    rcases exchange_accepted settings request custodian holder haccepts with ⟨after, heq, hstore⟩
    rw [heq] at hexchange hlast
    rcases Prod.mk.inj hexchange with ⟨rfl, -⟩
    obtain rfl : (holder, after) = last := hlast
    exact ⟨rfl, rfl, hstore⟩

end

/-! ## Whole requests -/

/-- What comes of a request in a world, if it is carried out and otherwise. -/
structure Settles (settings : Settings) (request : Request) (server : Server)
    (admitted : Except Fault (Option Credential)) (result : Result Json) (store : Backend.Store) :
    Prop where
  refused : ∀ fault, admitted = .error fault → result = .error fault ∧ store = server.store
  carried : ∀ credential, admitted = .ok credential →
    result = (replyOf (carriedOut settings request credential server).1).data ∧
      store = (carriedOut settings request credential server).2

theorem Settles.of_error {settings : Settings} {request : Request} {server : Server}
    {fault : Fault} :
    Settles settings request server (.error fault) (.error fault) server.store where
  refused := fun other h => ⟨congrArg _ (Except.error.inj h), rfl⟩
  carried := fun credential h => absurd h (by simp)

theorem Settles.of_ok {settings : Settings} {request : Request} {server : Server}
    {credential : Option Credential} {store : Backend.Store}
    (h : store = (carriedOut settings request credential server).2) :
    Settles settings request server (.ok credential)
      (replyOf (carriedOut settings request credential server).1).data store where
  refused := fun fault h => absurd h (by simp)
  carried := by
    intro other hother
    obtain rfl := Except.ok.inj hother
    exact ⟨rfl, h⟩

/-- What was counted so far does not matter. -/
theorem Settles.of_counted {settings : Settings} {request : Request} {server : Server}
    {requests : Nat} {admitted : Except Fault (Option Credential)} {result : Result Json}
    {store : Backend.Store}
    (h : Settles settings request { server with requests } admitted result store) :
    Settles settings request server admitted result store where
  refused := h.refused
  carried := h.carried

/-- What comes of a request whose credential may not be replaced any more. -/
theorem Settles.of_lastAttempt {settings : Settings} {request : Request} {custodian : Custodian κ}
    {credential : Option Credential} {holder : κ} {server : Server} {turns : List Turn}
    {result : Result Json} {last : κ × Server}
    (hattempts : Attempts settings request 0 credential turns result)
    (hanswers : (backed settings.base custodian).Answers (holder, server) turns last) :
    Settles settings request server
      (if accepts settings request server.token credential then .ok credential
        else .error .authenticationExpired)
      result last.2.store := by
  cases hattempts with
  | refused h =>
    rcases answers_refusal h hanswers with ⟨haccepts, hlast⟩
    have hstore : last.2.store = server.store := by
      rw [← hlast]
    rw [if_neg (by simp [haccepts]), hstore]
    exact .of_error
  | concluded h =>
    rcases answers_verdict h hanswers with ⟨haccepts, hresult, hstore⟩
    rw [if_pos haccepts, hresult]
    exact .of_ok hstore

/-- A request is carried out once with the credential that is taken, or not at all. -/
theorem send_backed (settings : Settings) (request : Request) (custodian : Custodian κ)
    (holder : κ) (server : Server) :
    Settles settings request server (admission settings request custodian holder server.token)
      ((send settings request).runIn (backed settings.base custodian) (holder, server)).result
      ((send settings request).runIn (backed settings.base custodian)
        (holder, server)).state.2.store := by
  have hanswers := (send settings request).answers_turnsIn (backed settings.base custodian)
    (holder, server)
  rcases send_attempts (backed settings.base custodian) settings request (holder, server) with
    ⟨answer, turns, hturns, hattempts⟩
  rw [hturns] at hanswers
  rw [maxRefreshes] at hattempts
  generalize ((send settings request).runIn (backed settings.base custodian)
    (holder, server)).result = result at hattempts ⊢
  generalize ((send settings request).runIn (backed settings.base custodian)
    (holder, server)).state = last at hanswers ⊢
  rcases hanswers with ⟨rfl, hanswers⟩
  -- the state of the custodian after its first answer
  have hstart : ((backed settings.base custodian).credential (holder, server)).2 =
      ((custodian.get holder).2, server) := rfl
  have hanswer : ((backed settings.base custodian).credential (holder, server)).1 =
      (custodian.get holder).1 := rfl
  rw [hstart] at hanswers
  rw [hanswer] at hattempts
  simp only [admission]
  cases hattempts with
  | concluded h =>
    rcases answers_verdict h hanswers with ⟨haccepts, hresult, hstore⟩
    rw [if_pos haccepts, hresult]
    exact .of_ok hstore
  | @unavailable _ _ _ _ reason h =>
    rcases answers_refusal h hanswers with ⟨haccepts, hrefresh, hlast⟩
    have hnone : (custodian.refresh (custodian.get holder).2).1 = .error reason := hrefresh
    have hstore : last.2.store = server.store := by
      rw [← hlast]
      rfl
    rw [if_neg (by simp [haccepts]), hnone, hstore]
    exact .of_error
  | @renewed _ _ _ _ fresh _ _ h rest =>
    rcases answers_refusal h hanswers with ⟨haccepts, hrefresh, hanswers⟩
    have hsome : (custodian.refresh (custodian.get holder).2).1 = .ok fresh := hrefresh
    -- the refused exchange counts as a request, but that is all
    have hnext : ((backed settings.base custodian).refresh ((custodian.get holder).2,
        { server with requests := server.requests + 1 })).2 =
          ((custodian.refresh (custodian.get holder).2).2,
            { server with requests := server.requests + 1 }) := rfl
    rw [hnext] at hanswers
    simp only [haccepts, Bool.false_eq_true, if_false, hsome]
    have hrest := Settles.of_lastAttempt rest hanswers
    exact hrest.of_counted

end GameShelf
