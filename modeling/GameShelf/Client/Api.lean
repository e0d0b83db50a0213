import GameShelf.Client.Input
import GameShelf.Client.Send
import GameShelf.Intake.Payload
import GameShelf.Text.Percent

/-!
# Views and changes

Callers see the library through a few views, which they may keep, and alter it by changes. A
change says which views it makes stale.

* `View`: what can be looked at; `View.key` names a kept view, `View.fetch` gets it anew.
* `Change`: what can be altered; `Change.run` sends it and returns the new value with the stale
  views.
* `entityPath`: the path of one entity in a collection.

## Terms

These go by other names in the interface of the service:

* `View`: `CacheKey`. Its views are got by `physical_locations_bff`, `physical_location`,
  `digital_locations`, `digital_location` and `library_snapshot`, in the order of the constructors.
* `Change`: `create_physical_location`, `update_physical_location`, `delete_physical_location`,
  `create_sublocation`, `delete_sublocation`, `create_digital_location`,
  `update_digital_location`, `delete_digital_location`, in the order of the constructors.
* `Changed`, `Reference`: `Mutation`, `EntityRef`.
* `placeViews`, `storefrontViews`: `physical_keys`, `digital_keys`.
-/

namespace GameShelf

/-! ## Paths -/

/-- The collection of places. -/
def placesPath : String := "/v1/locations/physical"

/-- All places with their compartments. -/
def batchPath : String := "/v1/locations/physical/bff"

/-- The collection of compartments. -/
def compartmentsPath : String := "/v1/locations/sublocations"

/-- The collection of storefronts. -/
def storefrontsPath : String := "/v1/locations/digital"

/-- The whole library. -/
def libraryPath : String := "/v1/library/bff"

/-- The path of an entity: its collection and one segment with its identifier. The identifiers
that a path resolves as a step to nowhere, or up, are refused. -/
def entityPath (collection id : String) : Except Fault String :=
  if id = "" ∨ id = "." ∨ id = ".." then
    .error (.unencodable ("invalid entity id " ++ Text.quoted id))
  else .ok (collection ++ "/" ++ Text.encodeSegment id)

/-- A request for an entity. -/
def entityRequest (method : Method) (collection id : String) : Except Fault Request :=
  (entityPath collection id).map (Request.to method)

/-! ## Requests with an adapted reply -/

/-- Sends a request, if it can be written. -/
def sendPrepared (settings : Settings) : Except Fault Request → Dialogue (Result Json)
  | .ok request => send settings request
  | .error fault => .done (.error fault)

/-- Makes something of the data of a reply and leaves its notices. -/
def adapt {α : Type} (read : Json → Except Fault (Noted α)) :
    Result Json → Dialogue (Result α)
  | .error fault => .done (.error fault)
  | .ok data =>
    match read data with
    | .error fault => .done (.error fault)
    | .ok noted => Dialogue.noteAll (noted.notices.map .notice) (.ok noted.value)

/-- Sends a request and takes in its data. -/
def request {α : Type} (settings : Settings) (read : Json → Except Fault (Noted α))
    (prepared : Except Fault Request) : Dialogue (Result α) :=
  (sendPrepared settings prepared).bind (adapt read)

/-! ## Views -/

/-- What can be looked at. -/
inductive View where
  | places
  | place (id : String)
  | storefronts
  | storefront (id : String)
  | library
deriving DecidableEq, Repr

/-- What is left of a value for its caller when the program may have stopped before. Of a stop
there are no notices. -/
def orStopped {α : Type} : Option (Noted α) → Noted (Option α)
  | some noted => ⟨some noted.value, noted.notices⟩
  | none => .plain none

namespace View

/-- The name under which a view is kept, from the general to the particular. -/
def key : View → List String
  | places => ["locations", "physical"]
  | place id => ["locations", "physical", id]
  | storefronts => ["locations", "digital"]
  | storefront id => ["locations", "digital", id]
  | library => ["library"]

/-- What a view shows. -/
@[reducible] def Content : View → Type
  | places => Batch
  | place _ => Place
  | storefronts => List Storefront
  | storefront _ => Storefront
  -- nothing if the program stops while it counts the library
  | library => Option Library

/-- Gets a view from the server. -/
def fetch (settings : Settings) : (view : View) → Dialogue (Result view.Content)
  | places => request settings Batch.ofPayload (.ok (Request.to .get batchPath))
  | place id => request settings Place.ofPayload (entityRequest .get placesPath id)
  | storefronts =>
    request settings Storefront.listOfPayload (.ok (Request.to .get storefrontsPath))
  | storefront id => request settings Storefront.ofPayload (entityRequest .get storefrontsPath id)
  | library =>
    request settings (fun payload => (Library.ofPayload payload).map orStopped)
      (.ok (Request.to .get libraryPath))

end View

/-! ## Changes -/

/-- Which entity a change was about. -/
structure Reference where
  id : String
  placeId : Option String
deriving DecidableEq, Repr

/-- What a change comes to: the new value, and the views that are stale. -/
structure Changed (α : Type) where
  value : α
  stale : List View
deriving DecidableEq, Repr

/-- What can be altered. -/
inductive Change where
  | createPlace (input : NewPlace)
  | updatePlace (id : String) (input : PlaceUpdate)
  /-- The compartments of the place go with it. -/
  | deletePlace (id : String)
  | createCompartment (input : NewCompartment)
  /-- The place is the one to look at again if the server does not name it. -/
  | deleteCompartment (id placeId : String)
  | createStorefront (input : NewStorefront)
  | updateStorefront (id : String) (input : StorefrontUpdate)
  | deleteStorefront (id : String)
deriving DecidableEq, Repr

/-- The views that show a place. -/
def placeViews (id : String) : List View :=
  [.place id, .places, .library]

/-- The views that show a storefront. -/
def storefrontViews (id : String) : List View :=
  [.storefront id, .storefronts, .library]

/-- The entity that a reply to its creation names. -/
def Reference.ofPayload (payload : Json) : Except Fault Reference := do
  let raw ← decodePayload Reported.Reference.layout.read payload
  match raw.id with
  | some id => return { id, placeId := raw.placeId }
  | none => throw (.undecodable "reply has no entity id")

/-- The entity that was deleted. A reply need not name it, but must not name another. -/
def Reference.confirmed (requested : String) (payload : Json) : Except Fault Reference := do
  let raw ← decodePayload Reported.Reference.layout.read payload
  match raw.id with
  | some id =>
    if id = requested then return { id := requested, placeId := raw.placeId }
    else throw (.protocolViolation s!"delete of {requested} confirmed {id}")
  | none => return { id := requested, placeId := raw.placeId }

/-- A reading without notices. -/
def unnoted {α : Type} (read : Json → Except Fault α) (payload : Json) :
    Except Fault (Noted α) :=
  (read payload).map Noted.plain

/-- Adds the stale views to the result of a change. -/
def markStale {α : Type} (stale : α → List View) (call : Dialogue (Result α)) :
    Dialogue (Result (Changed α)) :=
  call.bind fun result => .done (result.map fun value => ⟨value, stale value⟩)

/-- A reference whose place is known: the one that the server names, or else another. -/
def Reference.withPlace (placeId : String) (reference : Reference) : Changed Reference :=
  let place := reference.placeId.getD placeId
  ⟨{ reference with placeId := some place }, placeViews place⟩

/-- Names the place of a compartment in the result of a change. -/
def markPlace (placeId : String) (call : Dialogue (Result Reference)) :
    Dialogue (Result (Changed Reference)) :=
  call.bind fun result => .done (result.map (Reference.withPlace placeId))

namespace Change

/-- What a change returns. -/
@[reducible] def Value : Change → Type
  | createPlace _ => Place
  | updatePlace .. => Place
  | deletePlace _ => Reference
  | createCompartment _ => Reference
  | deleteCompartment .. => Reference
  | createStorefront _ => Storefront
  | updateStorefront .. => Storefront
  | deleteStorefront _ => Reference

/-- The request of a change. -/
def request : Change → Except Fault Request
  | createPlace input => .ok ((Request.to .post placesPath).json input.encode)
  | updatePlace id input =>
    (entityRequest .patch placesPath id).map (Request.json · input.encode)
  | deletePlace id => entityRequest .delete placesPath id
  | createCompartment input => .ok ((Request.to .post compartmentsPath).json input.encode)
  | deleteCompartment id _ => entityRequest .delete compartmentsPath id
  | createStorefront input => .ok ((Request.to .post storefrontsPath).json input.encode)
  | updateStorefront id input =>
    (entityRequest .patch storefrontsPath id).map (Request.json · input.encode)
  | deleteStorefront id => entityRequest .delete storefrontsPath id

/-- Sends a change to the server. -/
def run (settings : Settings) : (change : Change) → Dialogue (Result (Changed change.Value))
  | createPlace input =>
    markStale (fun place => placeViews place.id)
      (GameShelf.request settings Place.ofPayload (createPlace input).request)
  | updatePlace id input =>
    markStale (fun _ => placeViews id)
      (GameShelf.request settings Place.ofPayload (updatePlace id input).request)
  | deletePlace id =>
    markStale (fun _ => placeViews id)
      (GameShelf.request settings (unnoted (Reference.confirmed id)) (deletePlace id).request)
  | createCompartment input =>
    markPlace input.placeId
      (GameShelf.request settings (unnoted Reference.ofPayload) (createCompartment input).request)
  | deleteCompartment id placeId =>
    markPlace placeId
      (GameShelf.request settings (unnoted (Reference.confirmed id))
        (deleteCompartment id placeId).request)
  | createStorefront input =>
    markStale (fun storefront => storefrontViews storefront.id)
      (GameShelf.request settings Storefront.ofPayload (createStorefront input).request)
  | updateStorefront id input =>
    markStale (fun _ => storefrontViews id)
      (GameShelf.request settings Storefront.ofPayload (updateStorefront id input).request)
  | deleteStorefront id =>
    markStale (fun _ => storefrontViews id)
      (GameShelf.request settings (unnoted (Reference.confirmed id)) (deleteStorefront id).request)

end Change

end GameShelf
