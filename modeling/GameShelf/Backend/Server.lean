import GameShelf.Backend.Body
import GameShelf.Backend.Route

/-!
# The backend as a server

A request is counted, its credential checked, its path and method matched, and its body
decoded, in this order; only then does the operation run. New records get identifiers and times
from a supply, so that a run of the server is a function of the requests.

The refusals of an identifier that is not UTF-8, of an unknown path and of an unknown method come
from the web framework. Of these only the status is modeled: the first has a line of plain text
for its body, which is left out, and the other two have none.

* `Backend.Server`: the state, with the accepted token and the count of requests.
* `Backend.Server.handle`: answers a request.
* `Backend.Store.ofFields`: a store given from outside, with `Backend.Server.seed` to take it
  over.

## Terms

These go by other names in the interface of the service:

* `Backend.Server`, `Backend.isAuthorized`: `AppState`, `require_bearer`.
* `Backend.Server.rotate`: `rotate_token`.
-/

namespace GameShelf.Backend

/-- Where identifiers and times of new records come from, by the count of identifiers given
out before. -/
structure Supply where
  id : Nat → String
  now : Nat → String

/-- The state of the server. -/
structure Server where
  store : Store
  token : String
  requests : Nat
  issued : Nat
  supply : Supply

/-! ## Checks before an operation -/

/-- Whether the header of a request carries the accepted token. Headers that are not plain
ASCII never do. -/
def isAuthorized (token : String) (authorization : Option String) : Bool :=
  match authorization with
  | some value => value == "Bearer " ++ token && value.toList.all fun c => c.toNat < 0x7F
  | none => false

/-- The identifier in a path. -/
def decodeId (segment : String) : Except Answer String :=
  match Text.decodeSegment? segment with
  | some id => .ok id
  | none => .error (.bare 400)

/-! ## Operations -/

/-- Either both parts of an alteration or the refusal with the store as it was. -/
def orRefuse (store : Store) (result : Except Answer (Answer × Store)) : Answer × Store :=
  match result with
  | .ok done => done
  | .error refusal => (refusal, store)

/-- Runs an operation on a store. `id` and `now` are for a record that it may create or
alter. -/
def perform (id now : String) (request : Request) (operation : Operation) (store : Store) :
    Answer × Store :=
  orRefuse store <|
    match operation with
    | .library => .ok (store.library, store)
    | .batch => .ok (store.batch, store)
    | .listPlaces => .ok (store.listPlaces, store)
    | .getPlace segment => do
      let target ← decodeId segment
      return (store.getPlace target, store)
    | .createPlace => do
      let input ← decodeBody CreatePlace.layout request
      return store.createPlace id now input
    | .updatePlace segment => do
      let target ← decodeId segment
      let input ← decodeBody UpdatePlace.layout request
      return store.updatePlace now target input
    | .deletePlace segment => do
      let target ← decodeId segment
      return store.deletePlace target
    | .createCompartment => do
      let input ← decodeBody CreateCompartment.layout request
      return store.createCompartment id now input
    | .deleteCompartment segment => do
      let target ← decodeId segment
      return store.deleteCompartment target
    | .listStorefronts => .ok (store.listStorefronts, store)
    | .getStorefront segment => do
      let target ← decodeId segment
      return (store.getStorefront target, store)
    | .createStorefront => do
      let input ← decodeBody CreateStorefront.layout request
      return store.createStorefront id now input
    | .updateStorefront segment => do
      let target ← decodeId segment
      let input ← decodeBody UpdateStorefront.layout request
      return store.updateStorefront now target input
    | .deleteStorefront segment => do
      let target ← decodeId segment
      return store.deleteStorefront target

/-- Finds the operation of a request and runs it. A request for the head alone is answered like
one for the whole. -/
def dispatch (id now : String) (request : Request) (store : Store) : Answer × Store :=
  match Route.ofPath? request.path with
  | none => (.bare 404, store)
  | some route =>
    match route.operation? (if request.method = "HEAD" then "GET" else request.method) with
    | none => (.bare 405, store)
    | some operation => perform id now request operation store

namespace Server

/-- A server without records. -/
def start (token : String) (supply : Supply) : Server :=
  { store := .empty, token, requests := 0, issued := 0, supply }

/-- The answer of an authorized request, and the server after it. -/
def serve (request : Request) (server : Server) : Answer × Server :=
  let (answer, store) :=
    dispatch (server.supply.id server.issued) (server.supply.now server.issued) request
      server.store
  let issued := if answer.status = 201 then server.issued + 1 else server.issued
  (answer, { server with store, issued })

/-- Answers a request. An answer about the head alone has no body. -/
def handle (request : Request) (server : Server) : Answer × Server :=
  let server := { server with requests := server.requests + 1 }
  let (answer, server) :=
    if isAuthorized server.token request.authorization then server.serve request
    else (.fail 401 "unauthorized", server)
  (if request.method = "HEAD" then { answer with body := none } else answer, server)

/-- From now on only the given token is accepted. -/
def rotate (token : String) (server : Server) : Server :=
  { server with token }

/-- Takes over a store. -/
def seed (store : Store) (server : Server) : Server :=
  { server with store }

end Server

/-! ## Stores from outside -/

/-- The records of one collection; none if it is left out. -/
def collection {α : Type} (layout : Decode.Layout α) (fields : Json.Fields) (key : String) :
    Except DecodeError (List α) :=
  match Json.field? fields key with
  | none => .ok []
  | some .null => .ok []
  | some value => Decode.listOf layout.read value

/-- A store from the fields of its collections. -/
def Store.ofFields (fields : Json.Fields) : Except DecodeError Store := do
  let places ← collection Place.layout fields "physical"
  let compartments ← collection Compartment.layout fields "sublocations"
  let storefronts ← collection Storefront.layout fields "digital"
  return { places, compartments, storefronts }

end GameShelf.Backend
