import GameShelf.Proofs.Client.AppliedOnce

/-!
# All or nothing

The backend counts every request, refuses each that does not carry the accepted token, and has
altered nothing when it answers with anything but a success. Looking alters nothing at all.

* `Operation.looks`: the operations that look, which are those of `GET`.
* `AllOrNothing`: what the backend alters by one request, and what it does not.
* `Server.handle_allOrNothing`: it is so for every request in every state.
-/

namespace GameShelf.Backend

/-! ## Looking -/

/-- Whether an operation looks and does not alter. -/
def Operation.looks : Operation → Bool
  | library | batch | listPlaces | getPlace _ | listStorefronts | getStorefront _ => true
  | createPlace | updatePlace _ | deletePlace _ | createCompartment | deleteCompartment _
  | createStorefront | updateStorefront _ | deleteStorefront _ => false

/-- Every route has an operation that looks for `GET`, or none. -/
theorem Route.looks_of_get {route : Route} {operation : Operation}
    (h : route.operation? "GET" = some operation) : operation.looks = true := by
  cases route with
  | library | batch | places | storefronts => cases h; rfl
  | place segment | storefront segment => cases h; rfl
  | compartments | compartment segment => exact absurd h (by simp [operation?])

section

variable {id now : String} {request : Request} {store : Store}

/-- A first part that is refused keeps the store, like a rest that keeps it. -/
theorem orRefuse_keeps {α : Type} (first : Except Answer α)
    {next : α → Except Answer (Answer × Store)}
    (hnext : ∀ a, (orRefuse store (next a)).2 = store) :
    (orRefuse store (first.bind next)).2 = store := by
  cases first with
  | error refusal => rfl
  | ok a => exact hnext a

theorem perform_of_looks {operation : Operation} (h : operation.looks = true) :
    (perform id now request operation store).2 = store := by
  cases operation with
  | library | batch | listPlaces | listStorefronts => rfl
  | getPlace segment => exact orRefuse_keeps (decodeId segment) fun _ => rfl
  | getStorefront segment => exact orRefuse_keeps (decodeId segment) fun _ => rfl
  | createPlace | updatePlace | deletePlace | createCompartment | deleteCompartment
  | createStorefront | updateStorefront | deleteStorefront => cases h

/-- A request for a whole or for the head alone looks. -/
theorem dispatch_of_get (h : request.method = "GET" ∨ request.method = "HEAD") :
    (dispatch id now request store).2 = store := by
  have hmethod : (if request.method = "HEAD" then "GET" else request.method) = "GET" := by
    rcases h with hget | hhead
    · simp [hget]
    · simp [hhead]
  unfold dispatch
  rw [hmethod]
  split
  · rfl
  · rename_i route _
    cases hoperation : route.operation? "GET" with
    | none => rfl
    | some operation => exact perform_of_looks (Route.looks_of_get hoperation)

end

/-! ## Every request -/

/-- What a request counts for, and when it has altered nothing. -/
structure AllOrNothing (server : Server) (request : Request) (outcome : Answer × Server) :
    Prop where
  /-- Every request counts, refused or not. -/
  counted : outcome.2.requests = server.requests + 1
  /-- The token that is accepted stays. -/
  token : outcome.2.token = server.token
  /-- Only the accepted token lets a request pass. The refusal of a request for the head alone is
  a head alone. -/
  refused : request.authorization ≠ some ("Bearer " ++ server.token) →
    outcome.1 = (if request.method = "HEAD" then .bare 401 else .fail 401 "unauthorized") ∧
      outcome.2.store = server.store
  /-- Whatever is answered but a success, nothing is altered. -/
  failed : isSuccess outcome.1.status = false → outcome.2.store = server.store
  /-- Looking alters nothing. -/
  looked : request.method = "GET" ∨ request.method = "HEAD" → outcome.2.store = server.store

/-- A header that is not the accepted one does not pass. -/
theorem isAuthorized_of_ne {token : String} {authorization : Option String}
    (h : authorization ≠ some ("Bearer " ++ token)) :
    isAuthorized token authorization = false := by
  cases authorization with
  | none => rfl
  | some value =>
    have hvalue : (value == "Bearer " ++ token) = false := by
      rw [beq_eq_false_iff_ne]
      intro heq
      exact h (congrArg some heq)
    simp only [isAuthorized, hvalue, Bool.false_and]

namespace Server

variable (server : Server) (request : Request)

/-- Whether it is refused or carried out, a request counts, and the accepted token stays. -/
theorem handle_counts :
    (server.handle request).2.requests = server.requests + 1 ∧
      (server.handle request).2.token = server.token := by
  simp only [handle, serve]
  split
  · exact ⟨rfl, rfl⟩
  · exact ⟨rfl, rfl⟩

variable {server request}

/-- A request without the accepted token is refused before anything else. -/
theorem handle_of_not_authorized (h : isAuthorized server.token request.authorization = false) :
    server.handle request =
      (if request.method = "HEAD" then .bare 401 else .fail 401 "unauthorized",
        { server with requests := server.requests + 1 }) := by
  by_cases hhead : request.method = "HEAD"
  · simp only [handle, h, hhead, if_true, Bool.false_eq_true, if_false]
    rfl
  · exact (handle_refused h hhead).trans (by rw [if_neg hhead])

theorem handle_of_get (h : request.method = "GET" ∨ request.method = "HEAD") :
    (server.handle request).2.store = server.store := by
  cases hpasses : isAuthorized server.token request.authorization with
  | false => rw [handle_of_not_authorized hpasses]
  | true =>
    simp only [handle, hpasses, if_true, serve]
    exact dispatch_of_get h

/-- Every request in every state counts, and alters nothing unless it is authorized, succeeds and
does more than look. -/
theorem handle_allOrNothing (server : Server) (request : Request) :
    AllOrNothing server request (server.handle request) where
  counted := (server.handle_counts request).1
  token := (server.handle_counts request).2
  refused := by
    intro h
    rw [handle_of_not_authorized (isAuthorized_of_ne h)]
    exact ⟨rfl, rfl⟩
  failed := fun h => @Arrival.leaves_of_failure ⟨request, server⟩ h
  looked := handle_of_get

/-- The refusal of a request for the head alone has no envelope. -/
theorem refusal_of_head_bare :
    let server := start "token" ⟨fun _ => "", fun _ => ""⟩
    let request : Request := ⟨"HEAD", "/v1/library/bff", none, none, .empty⟩
    request.authorization ≠ some ("Bearer " ++ server.token) ∧
      (server.handle request).1 ≠ .fail 401 "unauthorized" := by
  intro server request
  constructor
  · intro h
    cases h
  · have hbare : (server.handle request).1 = .bare 401 := by
      rw [handle_of_not_authorized (isAuthorized_of_ne (by intro h; cases h))]
      rfl
    rw [hbare]
    intro h
    cases h

end Server

end GameShelf.Backend
