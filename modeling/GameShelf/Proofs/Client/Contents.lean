import GameShelf.Proofs.Client.Views
import GameShelf.Proofs.Intake.CrossReference
import GameShelf.Proofs.Intake.Parts

/-!
# The compartments in views

Compartments show in the views of places and of the library, and only those show that the backend
keeps. In the overview all of them show whose place the backend keeps.

* `View.compartmentIds`: the compartments that a view shows.
* `View.compartmentIds_subset`: the backend keeps them.
* `Batch.ListsOnce`: a compartment is in a batch once, and in one place.
* `Batch.ofStore`, `Batch.exists_ofStore`: the overview of a store, and what it shows of one
  compartment.
-/

namespace GameShelf

open Backend (Store)
open Rehearsal (replyOf)

/-- The identifiers of the compartments of a place. -/
def Place.compartmentIds (place : Place) : List String :=
  place.compartments.map Compartment.id

/-! ## Listings -/

/-- The records of a batch whose compartments are all beside the places. -/
theorem listings_beside {places : List Reported.Place}
    (h : ∀ place ∈ places, place.compartments = [])
    (beside : List Reported.Compartment) :
    listings places beside = beside.map fun raw => ⟨raw, none⟩ := by
  have hempty : places.flatMap
      (fun place => place.compartments.map fun raw => (⟨raw, some place.id⟩ : Listing)) = [] := by
    rw [List.flatMap_eq_nil_iff]
    intro place hplace
    rw [h place hplace, List.map_nil]
  rw [listings, hempty, List.nil_append]

/-- A batch has no compartments but those that are listed. -/
theorem takePlaces_listed_id {places : List Reported.Place} {beside : List Reported.Compartment}
    {claims : Claims} {compartment : Compartment}
    (h : compartment ∈ (takePlaces places beside claims).value.1.compartments) :
    compartment.id ∈ (listings places beside).map Listing.id := by
  rcases exists_listing_of_mem_takePlaces h with ⟨listing, hlisting, place, before, rfl⟩
  exact List.mem_map_of_mem hlisting

/-- Nor have its places. -/
theorem takePlaces_inside_listed_id {places : List Reported.Place}
    {beside : List Reported.Compartment} {claims : Claims} {place : Place}
    (hplace : place ∈ (takePlaces places beside claims).value.1.places) :
    place.compartmentIds ⊆ (listings places beside).map Listing.id := by
  intro id hid
  rcases List.mem_map.mp hid with ⟨compartment, hmem, rfl⟩
  rw [takePlaces_inside hplace] at hmem
  exact takePlaces_listed_id (List.mem_filter.mp hmem).1

/-! ## Batches -/

/-- A compartment is in a batch once, and in its place alone. -/
structure Batch.ListsOnce (batch : Batch) (compartment : Compartment) : Prop where
  listed : (batch.compartments.filter fun other => other.id == compartment.id) = [compartment]
  placed : ∃ place,
    (batch.places.filter fun other => other.id == compartment.placeId) = [place] ∧
      (place.compartments.filter fun other => other.id == compartment.id) = [compartment]
  elsewhere : ∀ place ∈ batch.places,
    compartment.id ∈ place.compartmentIds → place.id = compartment.placeId

/-- A batch lists each of its compartments once. -/
theorem takePlaces_listsOnce {places : List Reported.Place} {beside : List Reported.Compartment}
    {claims : Claims} {compartment : Compartment}
    (h : compartment ∈ (takePlaces places beside claims).value.1.compartments) :
    (takePlaces places beside claims).value.1.ListsOnce compartment := by
  have hlisted := filter_key_eq_singleton Compartment.id
    (nodup_takePlaces_compartment_ids places beside claims) h
  constructor
  case listed => exact hlisted
  case placed =>
    rcases exists_place_of_mem_takePlaces h with ⟨place, hplace, hplaceId, -⟩
    refine ⟨place, ?_, ?_⟩
    · rw [hplaceId]
      exact filter_key_eq_singleton Place.id (nodup_takePlaces_ids places beside claims) hplace
    · -- its place has those that name it, and it does
      rw [takePlaces_inside hplace, List.filter_comm, hlisted, List.filter_singleton, hplaceId,
        beq_self_eq_true]
      rfl
  case elsewhere =>
    intro place hplace hid
    rcases List.mem_map.mp hid with ⟨other, hother, hsame⟩
    rw [takePlaces_inside hplace] at hother
    rcases List.mem_filter.mp hother with ⟨hmem, hplaceId⟩
    have hfound : other ∈ (takePlaces places beside claims).value.1.compartments.filter
        fun other => other.id == compartment.id :=
      List.mem_filter.mpr ⟨hmem, beq_iff_eq.mpr hsame⟩
    rw [hlisted, List.mem_singleton] at hfound
    rw [← hfound]
    exact (beq_iff_eq.mp hplaceId).symm

/-! ## The overview -/

/-- The overview of a store. -/
def Batch.ofStore (store : Store) : Batch :=
  (takePlaces (store.places.map fun place => place.reported [])
    (store.compartments.map Backend.Compartment.reported) .none).value.1

/-- In the overview all compartments are listed beside the places. -/
theorem listings_ofStore (store : Store) :
    listings (store.places.map fun place => place.reported [])
        (store.compartments.map Backend.Compartment.reported) =
      store.compartments.map fun compartment => ⟨compartment.reported, none⟩ := by
  rw [listings_beside, List.map_map]
  · rfl
  · intro place hplace
    rcases List.mem_map.mp hplace with ⟨stored, -, rfl⟩
    rfl

theorem listings_ofStore_ids (store : Store) :
    (listings (store.places.map fun place => place.reported [])
        (store.compartments.map Backend.Compartment.reported)).map Listing.id =
      store.compartments.map Backend.Compartment.id := by
  rw [listings_ofStore, List.map_map]
  rfl

/-- The compartments of a store list no games. -/
theorem listings_ofStore_games (store : Store) :
    ∀ listing ∈ listings (store.places.map fun place => place.reported [])
        (store.compartments.map Backend.Compartment.reported), listing.raw.games = none := by
  rw [listings_ofStore]
  intro listing hmem
  rcases List.mem_map.mp hmem with ⟨compartment, -, rfl⟩
  rfl

/-- The overview has a compartment that no other record of the store hides, if the store has its
place. -/
theorem Batch.exists_ofStore {store : Store} {stored : Backend.Compartment}
    (hstored : stored ∈ store.compartments)
    (honly : ∀ other ∈ store.compartments, other.id = stored.id → other = stored)
    (hplace : stored.placeId ∈ store.places.map Backend.Place.id) :
    ∃ compartment, (Batch.ofStore store).ListsOnce compartment ∧
      compartment.id = stored.id ∧ compartment.placeId = stored.placeId ∧
      ∃ place claims,
        compartment = (Compartment.ofReported place claims stored.reported).value.1 := by
  have hlisting : (⟨stored.reported, none⟩ : Listing) ∈
      listings (store.places.map fun place => place.reported [])
        (store.compartments.map Backend.Compartment.reported) := by
    rw [listings_ofStore]
    exact List.mem_map.mpr ⟨stored, hstored, rfl⟩
  have hsame : ∀ listing ∈ listings (store.places.map fun place => place.reported [])
      (store.compartments.map Backend.Compartment.reported),
      listing.id = stored.id → listing = ⟨stored.reported, none⟩ := by
    intro listing hmem hid
    rw [listings_ofStore] at hmem
    rcases List.mem_map.mp hmem with ⟨other, hother, rfl⟩
    rw [honly other hother hid]
  have hplaces : stored.placeId ∈
      (store.places.map fun place => place.reported []).map Reported.Place.id := by
    rw [List.map_map]
    exact hplace
  rcases exists_taken_of_listing .none hlisting hsame rfl hplaces with
    ⟨compartment, hmem, hid, hplaceId⟩
  rcases exists_listing_of_mem_takePlaces hmem with ⟨listing, hlisted, place, claims, hmade⟩
  -- it comes of this record, for there is no other with its identifier
  have hmadeId : compartment.id = listing.id := by
    rw [hmade]
    rfl
  obtain rfl := hsame listing hlisted (hmadeId.symm.trans hid)
  exact ⟨compartment, takePlaces_listsOnce hmem, hid, hplaceId, place, claims, hmade⟩

/-- The overview can be taken in. -/
theorem Batch.ofPayload_batchData (store : Store) :
    ∃ noted, Batch.ofPayload store.batchData.toInternal = .ok noted ∧
      noted.value = Batch.ofStore store :=
  ⟨_, Batch.ofPayload_of_read store.read_batchData, rfl⟩

/-- The places of a library are those of the overview. -/
theorem Library.ofPayload_places {store : Store} {data : Json} {noted : Noted Library}
    (hdata : (replyOf store.library).data = .ok data)
    (h : Library.ofPayload data = .ok (some noted)) :
    noted.value.places = (Batch.ofStore store).places := by
  rcases Library.ofPayload_eq_ok h with ⟨raw, hread, hplaces, -, -⟩
  rcases store.read_libraryData hdata hread with ⟨hrawPlaces, hrawCompartments⟩
  rw [hplaces, batchOf, hrawPlaces, hrawCompartments]
  rfl

/-! ## One place -/

/-- In the record of a place only its compartments are listed. -/
theorem listings_reported (place : Backend.Place) (inside : List Backend.Compartment) :
    listings [place.reported inside] [] =
      inside.map fun compartment => ⟨compartment.reported, some place.id⟩ := by
  rw [listings, List.flatMap_singleton, List.map_nil, List.append_nil, Backend.Place.reported,
    List.map_map]
  rfl

theorem listings_reported_ids (place : Backend.Place) (inside : List Backend.Compartment) :
    (listings [place.reported inside] []).map Listing.id =
      inside.map Backend.Compartment.id := by
  rw [listings_reported, List.map_map]
  rfl

/-- A record of a place gives this place alone. -/
theorem Place.ofPayload_of_read {payload : Json} {raw : Reported.Place}
    (h : Reported.Place.layout.read payload = .ok raw) {noted : Noted Place}
    (hnoted : Place.ofPayload payload = .ok noted) :
    noted.value ∈ (takePlaces [raw] [] .none).value.1.places := by
  obtain rfl := Except.ok.inj ((Place.isMadeFrom.of_read h).symm.trans hnoted)
  exact Place.alone_mem raw

/-! ## All views -/

namespace View

/-- The identifiers of the compartments that a view shows. -/
def compartmentIds : (view : View) → view.Content → List String
  | places, batch =>
    batch.compartments.map Compartment.id ++ batch.places.flatMap Place.compartmentIds
  | place _, shown => shown.compartmentIds
  | storefronts, _ => []
  | storefront _, _ => []
  | library, some shown => shown.places.flatMap Place.compartmentIds
  | library, none => []

/-- A library that is shown was taken in. -/
theorem read_library_eq_some {data : Json} {noted : Noted (Option Library)} {shown : Library}
    (h : library.read data = .ok noted) (hshown : noted.value = some shown) :
    ∃ whole, Library.ofPayload data = .ok (some whole) ∧ whole.value = shown := by
  rcases exists_of_map_eq_ok h with ⟨taken, htaken, rfl⟩
  cases taken with
  | none => cases hshown
  | some whole => exact ⟨whole, htaken, Option.some.inj hshown⟩

/-- A place of the overview has only compartments of the store. -/
theorem mem_ids_of_mem_flatMap {store : Store} {id : String}
    (h : id ∈ (Batch.ofStore store).places.flatMap Place.compartmentIds) :
    id ∈ store.compartments.map Backend.Compartment.id := by
  rcases List.mem_flatMap.mp h with ⟨place, hplace, hid⟩
  rw [← listings_ofStore_ids]
  exact takePlaces_inside_listed_id hplace hid

/-- A view shows no compartments but those of the store. -/
theorem compartmentIds_subset {view : View} {store : Store} {data : Json}
    (hdata : (replyOf (view.answer store)).data = .ok data) {noted : Noted view.Content}
    (hread : view.read data = .ok noted) :
    view.compartmentIds noted.value ⊆ store.compartments.map Backend.Compartment.id := by
  intro id hid
  cases view with
  | storefronts => exact absurd hid (by simp [compartmentIds])
  | storefront _ => exact absurd hid (by simp [compartmentIds])
  | library =>
    cases hshown : noted.value with
    | none =>
      rw [hshown] at hid
      exact absurd hid (by simp [compartmentIds])
    | some shown =>
      rcases read_library_eq_some hread hshown with ⟨whole, hwhole, rfl⟩
      rw [hshown, compartmentIds, Library.ofPayload_places hdata hwhole] at hid
      exact mem_ids_of_mem_flatMap hid
  | places =>
    obtain rfl := Except.ok.inj (hdata.symm.trans store.delivered_batch)
    rcases Batch.ofPayload_batchData store with ⟨overview, hoverview, hvalue⟩
    obtain rfl := Except.ok.inj (hread.symm.trans hoverview)
    rw [compartmentIds, hvalue] at hid
    rcases List.mem_append.mp hid with hlisted | hinside
    · rcases List.mem_map.mp hlisted with ⟨compartment, hcompartment, rfl⟩
      rw [← listings_ofStore_ids]
      exact takePlaces_listed_id hcompartment
    · exact mem_ids_of_mem_flatMap hinside
  | place target =>
    rw [answer] at hdata
    split at hdata
    · -- the overview cannot be taken for a place
      rcases placeOfPayload_batch store with ⟨payload, hpayload, hfault⟩
      obtain rfl := Except.ok.inj (hdata.symm.trans hpayload)
      exact absurd (hread.symm.trans hfault) (by simp)
    · rcases store.delivered_getPlace hdata with ⟨found, -, rfl⟩
      have hplace := Place.ofPayload_of_read (found.read_withCompartments _) hread
      rw [compartmentIds] at hid
      have hlisted := takePlaces_inside_listed_id hplace hid
      rw [listings_reported_ids] at hlisted
      exact (List.filter_sublist.map Backend.Compartment.id).subset hlisted

end View

end GameShelf
