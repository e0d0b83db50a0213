import GameShelf.Proofs.Backend.Entities
import GameShelf.Proofs.Client.Staleness

/-!
# The paths of entities

The path of an entity leads to the route of its collection, with the identifier of the entity in
the segment. So a request for an entity is about this entity and about no other. There is one
exception: the overview of the places stands where a place with its name would be.

* `Collection.Addresses`: a path stands for an entity.
* `Collection.addresses_iff`: the paths of entities do, all but one.
* `carriedOut_overview`: what comes of requests for that one.
* `View.addresses`, `Change.addresses`: so do the paths of views and changes of entities.
-/

namespace GameShelf

open Backend (Server)
open Backend.Route (IsPlain ofPath? ofPath?_place ofPath?_compartment ofPath?_storefront)
open Rehearsal (arriving)
open Text (decodeSegment? encodeSegment)

namespace Collection

/-- The path of a collection. -/
def path : Collection → String
  | places => placesPath
  | compartments => compartmentsPath
  | storefronts => storefrontsPath

/-- A path stands for an entity: it leads to the route of the collection with the identifier of the
entity, and every request for it is about this entity. -/
structure Addresses (collection : Collection) (id path : String) : Prop where
  leads : ∃ segment, ofPath? path = some (collection.route segment) ∧
    decodeSegment? segment = some id
  /-- What is done is what the method does with the entity. -/
  acts : ∀ (settings : Settings) (request : Request) (credential : Option Credential)
    (server : Server), request.path = path →
      carriedOut settings request credential server =
        collection.act (server.supply.now server.issued)
          (arriving settings.base (request.prepare settings credential)) id server.store
          request.method
  /-- It is done if the server holds the entity. -/
  found : ∀ (settings : Settings) (request : Request) (credential : Option Credential)
    (server : Server), request.path = path →
      Takes (arriving settings.base (request.prepare settings credential)) collection
        request.method →
      ((carriedOut settings request credential server).1.status = 200 ↔
        id ∈ collection.ids server.store)
  /-- All else is left as it is. -/
  others : ∀ (settings : Settings) (request : Request) (credential : Option Credential)
    (server : Server), request.path = path →
      collection.without id (carriedOut settings request credential server).2 =
        collection.without id server.store

/-- The path of an entity leads to its route, except where the overview stands. -/
theorem ofPath?_path (collection : Collection) {id : String} (hid : id ≠ "") :
    ofPath? (collection.path ++ "/" ++ encodeSegment id) =
      if collection = places ∧ id = "bff" then some .batch
      else some (collection.route (encodeSegment id)) := by
  cases collection with
  | places =>
    rw [path, ofPath?_place hid]
    simp only [true_and, route]
  | compartments =>
    rw [path, ofPath?_compartment hid, if_neg (by simp)]
    rfl
  | storefronts =>
    rw [path, ofPath?_storefront hid, if_neg (by simp)]
    rfl

theorem isPlain_path (collection : Collection) : IsPlain collection.path := by
  cases collection with
  | places => exact Backend.Route.isPlain_places
  | compartments => exact Backend.Route.isPlain_compartments
  | storefronts => exact Backend.Route.isPlain_storefronts

/-- A path that leads to the route of an entity stands for it. -/
theorem addresses_of_route {collection : Collection} {id path : String}
    (hplain : IsPlain path) (hroute : ofPath? path = some (collection.route (encodeSegment id))) :
    collection.Addresses id path := by
  have hacts : ∀ (settings : Settings) (request : Request) (credential : Option Credential)
      (server : Server), request.path = path →
        carriedOut settings request credential server =
          collection.act (server.supply.now server.issued)
            (arriving settings.base (request.prepare settings credential)) id server.store
            request.method := by
    rintro settings request credential server rfl
    -- the path arrives as it was asked for, and so at this route
    have harrives := arriving_path settings hplain credential
    exact dispatch_route rfl (harrives.symm ▸ hroute) _ _ server.store
  constructor
  case leads => exact ⟨encodeSegment id, hroute, Text.decodeSegment?_encodeSegment id⟩
  case acts => exact hacts
  case found =>
    intro settings request credential server hpath htakes
    rw [hacts settings request credential server hpath]
    exact status_act _ _ id server.store collection request.method htakes
  case others =>
    intro settings request credential server hpath
    rw [hacts settings request credential server hpath]
    exact without_act _ _ id server.store collection request.method

/-- No path that leads to the overview stands for an entity. -/
theorem not_addresses_of_overview {path : String} (h : ofPath? path = some .batch)
    (collection : Collection) (id : String) : ¬ collection.Addresses id path := by
  intro haddresses
  rcases haddresses.leads with ⟨segment, hleads, -⟩
  have hroute : collection.route segment = .batch := Option.some.inj (hleads.symm.trans h)
  cases collection <;> simp [route] at hroute

/-- The path of an entity stands for it, unless it is that of the overview. -/
theorem addresses_of_path {collection : Collection} {id path : String}
    (h : entityPath collection.path id = .ok path)
    (hoverview : ¬ (collection = places ∧ id = "bff")) : collection.Addresses id path := by
  rcases entityPath_eq_ok h with ⟨hid, rfl⟩
  have hroute := ofPath?_path collection hid
  rw [if_neg hoverview] at hroute
  exact addresses_of_route (Backend.Route.isPlain_entity collection.isPlain_path id) hroute

/-- The paths of all entities stand for them, but for a place that is named like the overview. -/
theorem addresses_iff {collection : Collection} {id path : String}
    (h : entityPath collection.path id = .ok path) :
    collection.Addresses id path ↔ ¬ (collection = places ∧ id = "bff") := by
  constructor
  · intro haddresses hoverview
    rcases entityPath_eq_ok h with ⟨hid, rfl⟩
    -- there the literal route of the overview goes before that of the places
    have hroute := ofPath?_path collection hid
    rw [if_pos hoverview] at hroute
    exact not_addresses_of_overview hroute collection id haddresses
  · exact addresses_of_path h

/-- An identifier with a slash stays in its segment. -/
theorem slashed_addresses :
    entityPath storefronts.path "d/../bff" = .ok "/v1/locations/digital/d%2F..%2Fbff" ∧
      storefronts.Addresses "d/../bff" "/v1/locations/digital/d%2F..%2Fbff" := by
  have hpath : entityPath storefronts.path "d/../bff" =
      .ok "/v1/locations/digital/d%2F..%2Fbff" := rfl
  exact ⟨hpath, (addresses_iff hpath).mpr (by decide)⟩

/-- Where the overview stands, it is all that can be asked for, and nothing is altered. -/
theorem carriedOut_overview {request : Request} (hpath : request.path = batchPath)
    (settings : Settings) (credential : Option Credential) (server : Server) :
    carriedOut settings request credential server =
      (if request.method = .get then server.store.batch else .bare 405, server.store) := by
  have hplain : IsPlain request.path := hpath ▸ Backend.Route.isPlain_batch
  have hmethod : (arriving settings.base (request.prepare settings credential)).method =
      request.method.text := rfl
  rw [carriedOut, Backend.dispatch, arriving_path settings hplain, hpath,
    Backend.Route.ofPath?_batch, hmethod, if_neg request.method.text_ne_head]
  cases request.method <;> rfl

/-- A server that keeps a place named like the overview. -/
def overviewNamed : Server where
  store :=
    { places := [⟨"bff", "Attic", "house", none, none, "", ""⟩]
      compartments := []
      storefronts := [] }
  token := "secret"
  requests := 0
  issued := 0
  supply := ⟨fun count => "new-" ++ Nat.repr count, fun _ => "2024-01-01T00:00:00Z"⟩

/-- The place is there and its path leads to the overview: it can be neither seen nor deleted. -/
theorem overviewNamed_not_addresses :
    entityPath places.path "bff" = .ok batchPath ∧ ¬ places.Addresses "bff" batchPath ∧
      "bff" ∈ places.ids overviewNamed.store ∧
      (((View.place "bff").fetch Settings.default).runIn
        (backed Settings.default.base (.fixed ⟨"secret"⟩)) ((), overviewNamed)).result =
          .error (.undecodable "missing field `id`") ∧
      (((Change.deletePlace "bff").run Settings.default).runIn
        (backed Settings.default.base (.fixed ⟨"secret"⟩)) ((), overviewNamed)).result =
          .error (.status 405 "") := by
  have hpath : entityPath places.path "bff" = .ok batchPath := rfl
  have haddresses : ¬ places.Addresses "bff" batchPath :=
    not_addresses_of_overview Backend.Route.ofPath?_batch places "bff"
  exact ⟨hpath, haddresses, by decide, by decide +kernel, by decide +kernel⟩

end Collection

/-! ## Views and changes of entities -/

/-- The entity that a view shows. -/
def View.entity? : View → Option (Collection × String)
  | place id => some (.places, id)
  | storefront id => some (.storefronts, id)
  | _ => none

/-- The entity that a change alters. -/
def Change.entity? : Change → Option (Collection × String)
  | updatePlace id _ | deletePlace id => some (.places, id)
  | deleteCompartment id _ => some (.compartments, id)
  | updateStorefront id _ | deleteStorefront id => some (.storefronts, id)
  | _ => none

section

variable {collection : Collection} {id : String} {request : Request}

theorem entityRequest_path {method : Method}
    (h : entityRequest method collection.path id = .ok request) :
    entityPath collection.path id = .ok request.path := by
  rcases exists_of_map_eq_ok h with ⟨path, hpath, rfl⟩
  exact hpath

/-- What is asked for to see an entity is this entity. -/
theorem View.addresses {view : View} (hentity : view.entity? = some (collection, id))
    (hrequest : view.request = .ok request) (hoverview : ¬ (collection = .places ∧ id = "bff")) :
    collection.Addresses id request.path := by
  refine Collection.addresses_of_path ?_ hoverview
  cases view with
  | place id =>
    obtain ⟨rfl, rfl⟩ := Prod.mk.inj (Option.some.inj hentity)
    exact entityRequest_path hrequest
  | storefront id =>
    obtain ⟨rfl, rfl⟩ := Prod.mk.inj (Option.some.inj hentity)
    exact entityRequest_path hrequest
  | _ => exact absurd hentity (by simp [entity?])

/-- The request of a change of an entity is for its path. -/
theorem Change.entityPath_request {change : Change}
    (hentity : change.entity? = some (collection, id)) (hrequest : change.request = .ok request) :
    entityPath collection.path id = .ok request.path := by
  cases change with
  | deletePlace id =>
    obtain ⟨rfl, rfl⟩ := Prod.mk.inj (Option.some.inj hentity)
    exact entityRequest_path hrequest
  | deleteCompartment id placeId =>
    obtain ⟨rfl, rfl⟩ := Prod.mk.inj (Option.some.inj hentity)
    exact entityRequest_path hrequest
  | deleteStorefront id =>
    obtain ⟨rfl, rfl⟩ := Prod.mk.inj (Option.some.inj hentity)
    exact entityRequest_path hrequest
  | updatePlace id input =>
    obtain ⟨rfl, rfl⟩ := Prod.mk.inj (Option.some.inj hentity)
    rcases exists_of_map_eq_ok hrequest with ⟨base, hbase, rfl⟩
    have hpath : entityPath Collection.places.path id = .ok base.path :=
      entityRequest_path hbase
    exact hpath
  | updateStorefront id input =>
    obtain ⟨rfl, rfl⟩ := Prod.mk.inj (Option.some.inj hentity)
    rcases exists_of_map_eq_ok hrequest with ⟨base, hbase, rfl⟩
    have hpath : entityPath Collection.storefronts.path id = .ok base.path :=
      entityRequest_path hbase
    exact hpath
  | _ => exact absurd hentity (by simp [entity?])

/-- What is asked for to alter an entity is this entity. -/
theorem Change.addresses {change : Change} (hentity : change.entity? = some (collection, id))
    (hrequest : change.request = .ok request) (hoverview : ¬ (collection = .places ∧ id = "bff")) :
    collection.Addresses id request.path :=
  Collection.addresses_of_path (change.entityPath_request hentity hrequest) hoverview

/-- A new name for a place, as the client sends it, can be read by the backend. -/
example : ∃ request,
    (Change.updatePlace "attic" ⟨some "Loft", none, none, none⟩).request = .ok request ∧
    Collection.Takes (arriving Settings.default.base (request.prepare Settings.default none))
      .places request.method :=
  ⟨_, rfl, .updatePlace rfl⟩

end

end GameShelf
