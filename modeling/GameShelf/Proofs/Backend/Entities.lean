import GameShelf.Proofs.Backend.Agreement
import GameShelf.Proofs.Backend.Paths

/-!
# Single entities

Places, compartments and storefronts are entities of collections, and each can be asked for by its
identifier. What is asked for is done if the store holds the entity; then the others are left as
they are.

* `Collection`: the collections, with the routes of their entities.
* `Collection.act`: what a method does with an entity.
* `Collection.without_act`, `Collection.status_act`: what comes of it.
* `Collection.dispatch_route`: it is what is done at the route of the entity.
-/

namespace GameShelf

open Backend (Answer Operation Store decodeBody dispatch filter_removeFirst? filter_replaceFirst?
  isSome_removeFirst? isSome_replaceFirst? of_removeFirst? orRefuse perform removeFirst?
  replaceFirst?)
open Backend.Route (ofPath?)
open Text (encodeSegment)

/-! ## Collections -/

/-- The collections whose entities have paths. -/
inductive Collection where
  | places
  | compartments
  | storefronts
deriving DecidableEq, Repr

namespace Collection

/-- The route of the entity in a segment. -/
def route : Collection → String → Backend.Route
  | places => .place
  | compartments => .compartment
  | storefronts => .storefront

/-- The identifiers of the entities that a store holds. -/
def ids : Collection → Store → List String
  | places, store => store.places.map Backend.Place.id
  | compartments, store => store.compartments.map Backend.Compartment.id
  | storefronts, store => store.storefronts.map Backend.Storefront.id

/-- A store but for an entity. With a place go the compartments in it. -/
def without (id : String) (store : Store) : Collection → Store
  | places =>
    { store with
      places := store.places.filter fun place => place.id != id
      compartments := store.compartments.filter fun compartment => compartment.placeId != id }
  | compartments =>
    { store with
      compartments := store.compartments.filter fun compartment => compartment.id != id }
  | storefronts =>
    { store with storefronts := store.storefronts.filter fun storefront => storefront.id != id }

/-- What a method does with an entity, for a request that arrived. -/
def act (now : String) (arrived : Backend.Request) (id : String) (store : Store) :
    Collection → Method → Answer × Store
  | places, .get => (store.getPlace id, store)
  | places, .patch =>
    orRefuse store ((decodeBody Backend.UpdatePlace.layout arrived).map fun input =>
      store.updatePlace now id input)
  | places, .delete => store.deletePlace id
  | compartments, .delete => store.deleteCompartment id
  | storefronts, .get => (store.getStorefront id, store)
  | storefronts, .patch =>
    orRefuse store ((decodeBody Backend.UpdateStorefront.layout arrived).map fun input =>
      store.updateStorefront now id input)
  | storefronts, .delete => store.deleteStorefront id
  | _, _ => (.bare 405, store)

/-- The methods that the entities of a collection have, each with a body that it can read. -/
inductive Takes (arrived : Backend.Request) : Collection → Method → Prop where
  | getPlace : Takes arrived places .get
  | updatePlace {input : Backend.UpdatePlace}
      (h : decodeBody Backend.UpdatePlace.layout arrived = .ok input) : Takes arrived places .patch
  | deletePlace : Takes arrived places .delete
  | deleteCompartment : Takes arrived compartments .delete
  | getStorefront : Takes arrived storefronts .get
  | updateStorefront {input : Backend.UpdateStorefront}
      (h : decodeBody Backend.UpdateStorefront.layout arrived = .ok input) :
      Takes arrived storefronts .patch
  | deleteStorefront : Takes arrived storefronts .delete

/-! ## What is done with an entity -/

section

variable {α : Type} (key : α → String) (id : String) (list : List α)

theorem any_key_iff : (list.any fun a => key a == id) = true ↔ id ∈ list.map key := by
  simp only [List.any_eq_true, List.mem_map, beq_iff_eq]

theorem isSome_find?_key_iff :
    (list.find? fun a => key a == id).isSome = true ↔ id ∈ list.map key := by
  rw [List.isSome_find?, any_key_iff]

theorem isSome_replaceFirst?_key_iff (replace : α → α) :
    (replaceFirst? (fun a => key a == id) replace list).isSome = true ↔ id ∈ list.map key := by
  rw [isSome_replaceFirst?, any_key_iff]

theorem isSome_removeFirst?_key_iff :
    (removeFirst? (fun a => key a == id) list).isSome = true ↔ id ∈ list.map key := by
  rw [isSome_removeFirst?, any_key_iff]

/-- Nothing is lost without a key that no member has. -/
theorem length_filter_key_eq_iff :
    (list.filter fun a => key a != id).length = list.length ↔ id ∉ list.map key := by
  rw [List.length_filter_eq_length_iff, List.mem_map, not_exists]
  constructor
  · rintro h a ⟨ha, rfl⟩
    exact absurd (h a ha) (by simp)
  · intro h a ha
    exact bne_iff_ne.mpr fun hid => h a ⟨ha, hid⟩

variable {id} {list}

/-- A replacement that keeps the key is left out with the key. -/
theorem filter_key_replaceFirst? {replace : α → α} {rest : List α} {new : α}
    (h : replaceFirst? (fun a => key a == id) replace list = some (new, rest))
    (hkey : ∀ a, key (replace a) = key a) :
    (rest.filter fun a => key a != id) = list.filter fun a => key a != id := by
  apply filter_replaceFirst? h
  intro a ha
  have hid : key a = id := beq_iff_eq.mp ha
  simp only [hkey, hid, bne_self_eq_false, and_self]

/-- What is taken out by its key is left out with the key. -/
theorem filter_key_removeFirst? {rest : List α} {removed : α}
    (h : removeFirst? (fun a => key a == id) list = some (removed, rest)) :
    (rest.filter fun a => key a != id) = list.filter fun a => key a != id := by
  apply filter_removeFirst? h
  have htest := of_removeFirst? h
  rw [beq_iff_eq.mp htest, bne_self_eq_false]

end

section

variable (now id : String) (store : Store)

/-! ### Others are left as they are -/

theorem without_updatePlace (input : Backend.UpdatePlace) :
    places.without id (store.updatePlace now id input).2 = places.without id store := by
  unfold Store.updatePlace
  split
  · rename_i new rest hreplace
    have hrest := filter_key_replaceFirst? Backend.Place.id hreplace fun _ => rfl
    simp only [without, hrest]
  · rfl

theorem without_deletePlace :
    places.without id (store.deletePlace id).2 = places.without id store := by
  simp only [Store.deletePlace]
  split
  · rfl
  · simp only [without, List.filter_filter, Bool.and_self]

theorem without_deleteCompartment :
    compartments.without id (store.deleteCompartment id).2 = compartments.without id store := by
  unfold Store.deleteCompartment
  split
  · rename_i removed rest hremove
    have hrest := filter_key_removeFirst? Backend.Compartment.id hremove
    simp only [without, hrest]
  · rfl

theorem without_updateStorefront (input : Backend.UpdateStorefront) :
    storefronts.without id (store.updateStorefront now id input).2 =
      storefronts.without id store := by
  unfold Store.updateStorefront
  split
  · rename_i new rest hreplace
    have hrest := filter_key_replaceFirst? Backend.Storefront.id hreplace fun _ => rfl
    simp only [without, hrest]
  · rfl

theorem without_deleteStorefront :
    storefronts.without id (store.deleteStorefront id).2 = storefronts.without id store := by
  simp only [Store.deleteStorefront]
  split
  · rfl
  · simp only [without, List.filter_filter, Bool.and_self]

/-! ### What is held is found -/

theorem status_locationNotFound : Backend.locationNotFound.status ≠ 200 := by
  decide

theorem status_compartmentNotFound : Backend.compartmentNotFound.status ≠ 200 := by
  decide

theorem status_getPlace : (store.getPlace id).status = 200 ↔ id ∈ places.ids store := by
  have hfound := isSome_find?_key_iff Backend.Place.id id store.places
  unfold Store.getPlace Store.findPlace?
  split
  · rename_i place hplace
    rw [hplace] at hfound
    exact iff_of_true rfl (hfound.mp rfl)
  · rename_i hplace
    rw [hplace] at hfound
    exact iff_of_false status_locationNotFound (mt hfound.mpr Bool.false_ne_true)

theorem status_updatePlace (input : Backend.UpdatePlace) :
    (store.updatePlace now id input).1.status = 200 ↔ id ∈ places.ids store := by
  have hfound := isSome_replaceFirst?_key_iff Backend.Place.id id store.places
    (Store.alteredPlace now input)
  unfold Store.updatePlace
  split
  · rename_i new rest hreplace
    rw [hreplace] at hfound
    exact iff_of_true rfl (hfound.mp rfl)
  · rename_i hreplace
    rw [hreplace] at hfound
    exact iff_of_false status_locationNotFound (mt hfound.mpr Bool.false_ne_true)

theorem status_deletePlace : (store.deletePlace id).1.status = 200 ↔ id ∈ places.ids store := by
  have hlost := length_filter_key_eq_iff Backend.Place.id id store.places
  simp only [Store.deletePlace]
  split
  · rename_i hlength
    exact iff_of_false status_locationNotFound (hlost.mp hlength)
  · rename_i hlength
    exact iff_of_true rfl (not_not.mp (mt hlost.mpr hlength))

theorem status_deleteCompartment :
    (store.deleteCompartment id).1.status = 200 ↔ id ∈ compartments.ids store := by
  have hfound := isSome_removeFirst?_key_iff Backend.Compartment.id id store.compartments
  unfold Store.deleteCompartment
  split
  · rename_i removed rest hremove
    rw [hremove] at hfound
    exact iff_of_true rfl (hfound.mp rfl)
  · rename_i hremove
    rw [hremove] at hfound
    exact iff_of_false status_compartmentNotFound (mt hfound.mpr Bool.false_ne_true)

theorem status_getStorefront :
    (store.getStorefront id).status = 200 ↔ id ∈ storefronts.ids store := by
  have hfound := isSome_find?_key_iff Backend.Storefront.id id store.storefronts
  unfold Store.getStorefront
  split
  · rename_i storefront hstorefront
    rw [hstorefront] at hfound
    exact iff_of_true rfl (hfound.mp rfl)
  · rename_i hstorefront
    rw [hstorefront] at hfound
    exact iff_of_false status_locationNotFound (mt hfound.mpr Bool.false_ne_true)

theorem status_updateStorefront (input : Backend.UpdateStorefront) :
    (store.updateStorefront now id input).1.status = 200 ↔ id ∈ storefronts.ids store := by
  have hfound := isSome_replaceFirst?_key_iff Backend.Storefront.id id store.storefronts
    (Store.alteredStorefront now input)
  unfold Store.updateStorefront
  split
  · rename_i new rest hreplace
    rw [hreplace] at hfound
    exact iff_of_true rfl (hfound.mp rfl)
  · rename_i hreplace
    rw [hreplace] at hfound
    exact iff_of_false status_locationNotFound (mt hfound.mpr Bool.false_ne_true)

theorem status_deleteStorefront :
    (store.deleteStorefront id).1.status = 200 ↔ id ∈ storefronts.ids store := by
  have hlost := length_filter_key_eq_iff Backend.Storefront.id id store.storefronts
  simp only [Store.deleteStorefront]
  split
  · rename_i hlength
    exact iff_of_false status_locationNotFound (hlost.mp hlength)
  · rename_i hlength
    exact iff_of_true rfl (not_not.mp (mt hlost.mpr hlength))

end

section

variable (now : String) (arrived : Backend.Request) (id : String) (store : Store)
  (collection : Collection) (method : Method)

/-- What is done with an entity leaves the others as they are. -/
theorem without_act :
    collection.without id (collection.act now arrived id store method).2 =
      collection.without id store := by
  -- what looks at an entity alters nothing, and neither does a refusal
  fun_cases act now arrived id store collection method with
  | case1 => rfl
  | case2 =>
    cases decodeBody Backend.UpdatePlace.layout arrived with
    | error refusal => rfl
    | ok input => exact without_updatePlace now id store input
  | case3 => exact without_deletePlace id store
  | case4 => exact without_deleteCompartment id store
  | case5 => rfl
  | case6 =>
    cases decodeBody Backend.UpdateStorefront.layout arrived with
    | error refusal => rfl
    | ok input => exact without_updateStorefront now id store input
  | case7 => exact without_deleteStorefront id store
  | case8 => rfl

/-- What is asked for is done if the store holds the entity. -/
theorem status_act (h : Takes arrived collection method) :
    (collection.act now arrived id store method).1.status = 200 ↔ id ∈ collection.ids store := by
  cases h with
  | getPlace => exact status_getPlace id store
  | @updatePlace input hinput =>
    rw [act, hinput]
    exact status_updatePlace now id store input
  | deletePlace => exact status_deletePlace id store
  | deleteCompartment => exact status_deleteCompartment id store
  | getStorefront => exact status_getStorefront id store
  | @updateStorefront input hinput =>
    rw [act, hinput]
    exact status_updateStorefront now id store input
  | deleteStorefront => exact status_deleteStorefront id store

end

/-! ## At the route of an entity -/

/-- The operation that a method is at the route of an entity. -/
def operation? (segment : String) : Collection → Method → Option Operation
  | places, .get => some (.getPlace segment)
  | places, .patch => some (.updatePlace segment)
  | places, .delete => some (.deletePlace segment)
  | compartments, .delete => some (.deleteCompartment segment)
  | storefronts, .get => some (.getStorefront segment)
  | storefronts, .patch => some (.updateStorefront segment)
  | storefronts, .delete => some (.deleteStorefront segment)
  | _, _ => none

theorem operation?_route (collection : Collection) (segment : String) (method : Method) :
    (collection.route segment).operation? method.text = collection.operation? segment method := by
  cases collection <;> cases method <;> rfl

/-- An operation on the segment of an identifier is one on the entity. -/
theorem perform_operation {collection : Collection} {id : String} {method : Method}
    {operation : Operation} (h : collection.operation? (encodeSegment id) method = some operation)
    (new now : String) (arrived : Backend.Request) (store : Store) :
    perform new now arrived operation store = collection.act now arrived id store method := by
  fun_cases operation? (encodeSegment id) collection method with
  | case8 => exact absurd h (by simp [operation?])
  | _ =>
    obtain rfl := Option.some.inj h
    rw [perform, decodeId_encodeSegment]
    rfl

/-- A method that is no operation is refused. -/
theorem act_eq_refused {collection : Collection} {segment : String} {method : Method}
    (h : collection.operation? segment method = none) (id now : String)
    (arrived : Backend.Request) (store : Store) :
    collection.act now arrived id store method = (.bare 405, store) := by
  fun_cases operation? segment collection method with
  | case8 => simp [act]
  | _ => exact absurd h (by simp [operation?])

/-- At the route of an entity is done what the method does with it. -/
theorem dispatch_route {collection : Collection} {id : String} {arrived : Backend.Request}
    {method : Method} (hmethod : arrived.method = method.text)
    (hroute : ofPath? arrived.path = some (collection.route (encodeSegment id)))
    (new now : String) (store : Store) :
    dispatch new now arrived store = collection.act now arrived id store method := by
  rw [dispatch, hroute, hmethod, if_neg method.text_ne_head]
  simp only [operation?_route]
  cases hoperation : collection.operation? (encodeSegment id) method with
  | none => exact (act_eq_refused hoperation id now arrived store).symm
  | some operation => exact perform_operation hoperation new now arrived store

end Collection

end GameShelf
