import GameShelf.Backend.Record
import GameShelf.Library.Census

/-!
# The store of the backend

Three collections in order of creation, and what each operation does to them. An operation
answers with a status and an envelope; one that fails leaves the store as it was. The games are
added up in words of 64 bits, like those of a library, and the backend stops where a word cannot
hold their sum.

* `Backend.Store`: the collections.
* `Backend.Answer`: what an operation answers.
* The operations, in the namespace of `Backend.Store`: those that look (`library`, `batch`,
  `listPlaces`, `getPlace`, …) and those that alter (`createPlace`, `updatePlace`, …). An
  alteration returns its answer and the new store.

## Terms

These go by other names in the interface of the service:

* `library`, `batch`: `library_bff`, `physical_bff`.
* The other operations: `list_`, `get_`, `create_`, `update_` or `delete_` with `physical` for
  places, `sublocation` for compartments and `digital` for storefronts.
-/

namespace GameShelf.Backend

/-- The collections of the backend. -/
structure Store where
  places : List Place
  compartments : List Compartment
  storefronts : List Storefront
deriving DecidableEq, Repr

/-- What an operation answers: a status, and a body unless it is empty. -/
structure Answer where
  status : Nat
  body : Option Json

namespace Answer

/-- The envelope of a success. -/
def success (data : Json) : Json :=
  Json.recordOf [("success", .flag true), ("data", data)]

/-- The operation succeeded. -/
def ok (data : Json) : Answer :=
  ⟨200, some (success data)⟩

/-- A record was created. -/
def created (data : Json) : Answer :=
  ⟨201, some (success data)⟩

/-- The operation failed. -/
def fail (status : Nat) (message : String) : Answer :=
  ⟨status, some (Json.recordOf [("success", .flag false), ("error", .text message)])⟩

/-- A status without a body, or with one that is a line of plain text in the words of the web
framework, which is left out. -/
def bare (status : Nat) : Answer :=
  ⟨status, none⟩

/-- The operation stopped before it had an answer. Its caller is left without one, which the status
zero stands for: no answer on the wire has it. -/
def stopped : Answer := .bare 0

end Answer

/-- A place or storefront is not there. -/
def locationNotFound : Answer :=
  .fail 404 "location not found"

/-- A compartment is not there. -/
def compartmentNotFound : Answer :=
  .fail 404 "sublocation not found"

/-- A compartment is to be created in a place that is not there. -/
def parentNotFound : Answer :=
  .fail 422 "parent location not found"

/-- Replaces the first member of a list that satisfies a test; absent if none does. The new
member comes with the list. -/
def replaceFirst? {α : Type} (test : α → Bool) (replace : α → α) : List α → Option (α × List α)
  | [] => none
  | a :: rest =>
    if test a then some (replace a, replace a :: rest)
    else (replaceFirst? test replace rest).map fun (new, rest) => (new, a :: rest)

/-- Takes the first member that satisfies a test out of a list; absent if none does. -/
def removeFirst? {α : Type} (test : α → Bool) : List α → Option (α × List α)
  | [] => none
  | a :: rest =>
    if test a then some (a, rest)
    else (removeFirst? test rest).map fun (removed, rest) => (removed, a :: rest)

/-- A place on the wire with those of the compartments that are in it. -/
def Place.withCompartments (place : Place) (compartments : List Compartment) : Json :=
  let inside := compartments.filter fun compartment => compartment.placeId == place.id
  Json.recordOf (place.fields ++ [("sublocations", .list (inside.map Compartment.toJson))])

namespace Store

/-- Nothing is stored. -/
def empty : Store := ⟨[], [], []⟩

/-! ## Looking -/

/-- How many places and storefronts there are. -/
def locationCount (store : Store) : Nat :=
  store.places.length + store.storefronts.length

/-- How many games all compartments and storefronts hold. Absent if the backend stops while it
adds them up. -/
def itemCount? (store : Store) : Option Nat := do
  let inside ← sumOf? (fun compartment => some compartment.storedItems.toNat) store.compartments
  let listed ← sumOf? (fun storefront => some storefront.games.length) store.storefronts
  word? (inside + listed)

/-- The totals that go with the whole library, given how many games there are. -/
def totals (items : Nat) (store : Store) : Json :=
  Json.recordOf [("locations", .nat store.locationCount), ("items", .nat items)]

/-- The data of the whole library, given how many games there are. -/
def libraryData (items : Nat) (store : Store) : Json :=
  Json.recordOf
    [("physical_locations", .list (store.places.map Place.toJson)),
     ("sublocations", .list (store.compartments.map Compartment.toJson)),
     ("digital_locations", .list (store.storefronts.map Storefront.toJson)),
     ("totals", store.totals items)]

/-- The data of the whole library, with counts. Absent if the backend stops while it counts. -/
def libraryData? (store : Store) : Option Json :=
  store.itemCount?.map fun items => store.libraryData items

/-- The data of all places, with the compartments beside them. -/
def batchData (store : Store) : Json :=
  Json.recordOf
    [("physical_locations", .list (store.places.map Place.toJson)),
     ("sublocations", .list (store.compartments.map Compartment.toJson))]

/-- The whole library. -/
def library (store : Store) : Answer :=
  match store.libraryData? with
  | some data => .ok data
  | none => .stopped

/-- All places, with the compartments beside them. -/
def batch (store : Store) : Answer :=
  .ok store.batchData

/-- All places, each with its compartments. -/
def listPlaces (store : Store) : Answer :=
  .ok (.list (store.places.map fun place => place.withCompartments store.compartments))

/-- The place with an identifier. -/
def findPlace? (store : Store) (id : String) : Option Place :=
  store.places.find? fun place => place.id == id

/-- One place with its compartments. -/
def getPlace (store : Store) (id : String) : Answer :=
  match store.findPlace? id with
  | some place => .ok (place.withCompartments store.compartments)
  | none => locationNotFound

/-- All storefronts. -/
def listStorefronts (store : Store) : Answer :=
  .ok (.list (store.storefronts.map Storefront.toJson))

/-- One storefront. -/
def getStorefront (store : Store) (id : String) : Answer :=
  match store.storefronts.find? fun storefront => storefront.id == id with
  | some storefront => .ok storefront.toJson
  | none => locationNotFound

/-! ## Altering places -/

/-- Creates a place. -/
def createPlace (id now : String) (input : CreatePlace) (store : Store) : Answer × Store :=
  let place : Place :=
    { id, name := input.name, kind := input.kind, coordinates := input.coordinates,
      color := input.color, created := now, updated := now }
  (.created (place.withCompartments []), { store with places := store.places ++ [place] })

/-- A place after an alteration. -/
def alteredPlace (now : String) (input : UpdatePlace) (place : Place) : Place :=
  { place with
    name := input.name.getD place.name
    kind := input.kind.getD place.kind
    coordinates := input.coordinates <|> place.coordinates
    color := input.color <|> place.color
    updated := now }

/-- Alters a place. -/
def updatePlace (now id : String) (input : UpdatePlace) (store : Store) : Answer × Store :=
  match replaceFirst? (fun place => place.id == id) (alteredPlace now input) store.places with
  | some (place, places) =>
    (.ok (place.withCompartments store.compartments), { store with places })
  | none => (locationNotFound, store)

/-- Deletes a place and the compartments in it. -/
def deletePlace (id : String) (store : Store) : Answer × Store :=
  let places := store.places.filter fun place => place.id != id
  if places.length = store.places.length then (locationNotFound, store)
  else
    let compartments := store.compartments.filter fun compartment => compartment.placeId != id
    (.ok (Json.recordOf [("id", .text id)]), { store with places, compartments })

/-! ## Altering compartments -/

/-- Creates a compartment in a place that is there. -/
def createCompartment (id now : String) (input : CreateCompartment) (store : Store) :
    Answer × Store :=
  if store.places.any fun place => place.id == input.placeId then
    let compartment : Compartment :=
      { id, name := input.name, kind := input.kind, placeId := input.placeId,
        description := input.description, color := input.color, storedItems := 0,
        created := now, updated := now }
    (.created compartment.toJson,
      { store with compartments := store.compartments ++ [compartment] })
  else (parentNotFound, store)

/-- Deletes a compartment. -/
def deleteCompartment (id : String) (store : Store) : Answer × Store :=
  match removeFirst? (fun compartment => compartment.id == id) store.compartments with
  | some (removed, compartments) =>
    (.ok (Json.recordOf
        [("id", .text removed.id), ("parent_location_id", .text removed.placeId)]),
      { store with compartments })
  | none => (compartmentNotFound, store)

/-! ## Altering storefronts -/

/-- Creates a storefront. -/
def createStorefront (id now : String) (input : CreateStorefront) (store : Store) :
    Answer × Store :=
  let storefront : Storefront :=
    { id, name := input.name, platform := input.platform,
      isSubscription := input.isSubscription, isActive := input.isActive, cost := input.cost,
      cycle := input.cycle, nextPayment := input.nextPayment, method := input.method,
      games := [], created := now, updated := now }
  (.created storefront.toJson,
    { store with storefronts := store.storefronts ++ [storefront] })

/-- A storefront after an alteration. -/
def alteredStorefront (now : String) (input : UpdateStorefront) (storefront : Storefront) :
    Storefront :=
  { storefront with
    name := input.name.getD storefront.name
    platform := input.platform.getD storefront.platform
    isSubscription := input.isSubscription.getD storefront.isSubscription
    isActive := input.isActive.getD storefront.isActive
    cost := input.cost <|> storefront.cost
    cycle := input.cycle.getD storefront.cycle
    nextPayment := input.nextPayment <|> storefront.nextPayment
    method := input.method.getD storefront.method
    updated := now }

/-- Alters a storefront. -/
def updateStorefront (now id : String) (input : UpdateStorefront) (store : Store) :
    Answer × Store :=
  match replaceFirst? (fun storefront => storefront.id == id) (alteredStorefront now input)
      store.storefronts with
  | some (storefront, storefronts) => (.ok storefront.toJson, { store with storefronts })
  | none => (locationNotFound, store)

/-- Deletes a storefront. -/
def deleteStorefront (id : String) (store : Store) : Answer × Store :=
  let storefronts := store.storefronts.filter fun storefront => storefront.id != id
  if storefronts.length = store.storefronts.length then (locationNotFound, store)
  else (.ok (Json.recordOf [("id", .text id)]), { store with storefronts })

end Store

end GameShelf.Backend
