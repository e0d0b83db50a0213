import GameShelf.Proofs.Backend.WholeLibrary
import GameShelf.Proofs.Client.Contents
import GameShelf.Proofs.Intake.Counting

/-!
# Places as they are shown

The backend sends a place in three ways: alone with its compartments inside, and with all places and
compartments beside each other, with or without the storefronts. In all three the client shows the
same place.

* `Compartment.ofStored`, `Place.ofStored`: what is shown of a stored place and its
  compartments, without a batch around them.
* `takePlaces_unlisted`: a batch whose compartments list no games and have different identifiers.
* `Batch.ofStore_places`: the places of the overview, each as it is shown.
* `Place.ofPayload_withCompartments`: a place alone, as it is shown.
* `Store.place_shown_alike`: the three are the same.
-/

namespace GameShelf

open Backend (Store)

/-! ## Compartments without lists of games -/

section

variable {claims : Claims}

/-- A compartment without a list of games leaves all games to others, and is the same whoever has
them. -/
theorem Compartment.ofReported_unlisted {raw : Reported.Compartment} (h : raw.games = none)
    (place : Place) :
    (Compartment.ofReported place claims raw).value =
      ((Compartment.ofReported place .none raw).value.1, claims) := by
  simp only [Compartment.ofReported, compartmentGames, h]
  rfl

theorem takeCompartments_unlisted {kept : List (Place × Reported.Compartment)}
    (h : ∀ record ∈ kept, record.2.games = none) :
    (takeCompartments claims kept).value =
      (kept.map fun record => (Compartment.ofReported record.1 .none record.2).value.1,
        claims) := by
  induction kept with
  | nil => rfl
  | cons record rest ih =>
    rcases List.forall_mem_cons.mp h with ⟨hfirst, hrest⟩
    have hrecord : (Compartment.ofReported record.1 claims record.2).value =
        ((Compartment.ofReported record.1 .none record.2).value.1, claims) :=
      Compartment.ofReported_unlisted hfirst record.1
    have hothers := ih hrest
    rw [takeCompartments] at hothers ⊢
    simp only [takeRecords, Noted.value_bind, Noted.value_pure, hrecord, hothers, List.map_cons]

end

/-! ## What a place holds -/

/-- Of the listings that are placed, a place holds those that name it. -/
theorem filter_placed {roster : Roster} (h : roster.WellIndexed) {place : Place}
    (hplace : place ∈ roster.places) (listings : List Listing) :
    ((listings.filterMap (Listing.placed? roster)).filter fun record =>
        record.1.id == place.id) =
      (listings.filter fun listing => listing.placeId == some place.id).map fun listing =>
        (place, listing.raw) := by
  rcases List.getElem?_of_mem hplace with ⟨slot, hslot⟩
  have hfind : roster.find? place.id = some (slot, place) := h.find?_eq_some.mpr ⟨hslot, rfl⟩
  induction listings with
  | nil => rfl
  | cons listing rest ih =>
    by_cases hid : listing.placeId = some place.id
    · -- it names the place
      have hplaced : listing.placed? roster = some (place, listing.raw) := by
        rw [Listing.placed?, hid, Option.bind_some, hfind]
        rfl
      rw [List.filterMap_cons, hplaced, List.filter_cons, List.filter_cons, hid]
      simp only [beq_self_eq_true, if_true, List.map_cons, ih]
    · have hskip : (listing.placeId == some place.id) = false := beq_false_of_ne hid
      rw [List.filter_cons, hskip, if_neg Bool.false_ne_true, List.filterMap_cons]
      cases hplaced : listing.placed? roster with
      | none => exact ih
      | some record =>
        -- it is placed with another one
        rcases Option.map_eq_some_iff.mp hplaced with ⟨found, hfound, rfl⟩
        rcases Option.bind_eq_some_iff.mp hfound with ⟨id, hlisted, hother⟩
        have hfoundId : found.2.id = id := (h.find?_eq_some.mp hother).2
        have hne : (found.2.id == place.id) = false := by
          apply beq_false_of_ne
          rintro heq
          exact hid (by rw [hlisted, ← hfoundId, heq])
        rw [List.filter_cons, hne, if_neg Bool.false_ne_true]
        exact ih

theorem keptIn_unlisted {places : List Reported.Place} {beside : List Reported.Compartment}
    (h : ∀ listing ∈ listings places beside, listing.raw.games = none) :
    ∀ record ∈ keptIn places beside, record.2.games = none := by
  intro record hrecord
  rcases exists_listing_of_mem_keptIn hrecord with ⟨listing, hlisting, hraw⟩
  rw [hraw]
  exact h listing hlisting

/-- The places of a batch whose compartments list no games and are listed once each. -/
theorem takePlaces_unlisted {places : List Reported.Place} {beside : List Reported.Compartment}
    (hlisted : ((listings places beside).map Listing.id).Nodup)
    (hgames : ∀ listing ∈ listings places beside, listing.raw.games = none) (claims : Claims) :
    (takePlaces places beside claims).value.1.places =
      (firstsAfter Reported.Place.id [] places).map fun raw =>
        { (Place.ofReported raw).value with
          compartments :=
            ((listings places beside).filter fun listing => listing.placeId == some raw.id).map
              fun listing => (Compartment.ofReported (Place.ofReported raw).value .none
                listing.raw).value.1 } := by
  have hunlisted := keptIn_unlisted hgames
  rcases takePlaces_took places beside claims with ⟨-, hplaces, -, -⟩
  rw [hplaces, takeCompartments_unlisted hunlisted, rosterOf, Roster.empty_addAll_places,
    List.map_map]
  apply List.map_congr_left
  intro raw hraw
  have hmem : (Place.ofReported raw).value ∈ (rosterOf places).places := by
    rw [rosterOf, Roster.empty_addAll_places]
    exact List.mem_map_of_mem hraw
  -- the place holds the kept records that name it
  have hheld := filter_placed (rosterOf_wellIndexed places) hmem (listings places beside)
  rw [← keptIn_eq hlisted] at hheld
  simp only [Function.comp, Place.holding, List.filter_map]
  congr 1
  have hsame := congrArg (List.map fun record : Place × Reported.Compartment =>
    (Compartment.ofReported record.1 .none record.2).value.1) hheld
  rw [List.map_map] at hsame
  exact hsame

/-! ## What is stored and what is shown -/

/-- The compartments that the backend keeps in a place. -/
def Backend.Store.inside (store : Store) (id : String) : List Backend.Compartment :=
  store.compartments.filter fun compartment => compartment.placeId == id

/-- What is shown of a stored compartment in a place. -/
def Compartment.ofStored (place : Place) (stored : Backend.Compartment) : Compartment :=
  (Compartment.ofReported place .none stored.reported).value.1

/-- What is shown of a stored place with some compartments. -/
def Place.ofStored (stored : Backend.Place) (inside : List Backend.Compartment) : Place :=
  let place := (Place.ofReported (stored.reported [])).value
  { place with compartments := inside.map (Compartment.ofStored place) }

theorem Place.ofStored_compartments (stored : Backend.Place)
    (inside : List Backend.Compartment) :
    (Place.ofStored stored inside).compartments =
      inside.map (Compartment.ofStored (Place.ofReported (stored.reported [])).value) := rfl

/-- In the overview every place is shown once, with its compartments as they are stored. -/
theorem Batch.ofStore_places {store : Store}
    (h : (store.compartments.map Backend.Compartment.id).Nodup) :
    (Batch.ofStore store).places =
      (firstsAfter Backend.Place.id [] store.places).map fun place =>
        Place.ofStored place (store.inside place.id) := by
  have hlisted : ((listings (store.places.map fun place => place.reported [])
      (store.compartments.map Backend.Compartment.reported)).map Listing.id).Nodup := by
    rw [listings_ofStore_ids]
    exact h
  rw [Batch.ofStore, takePlaces_unlisted hlisted (listings_ofStore_games store), firstsAfter_map,
    List.map_map, listings_ofStore]
  apply List.map_congr_left
  intro place _
  simp only [Function.comp, List.filter_map, List.map_map]
  rfl

section

variable {stored : Backend.Place} {inside : List Backend.Compartment}

/-- The compartments inside the record of a place list no games. -/
theorem listings_reported_games :
    ∀ listing ∈ listings [stored.reported inside] [], listing.raw.games = none := by
  rw [listings_reported]
  intro listing hmem
  rcases List.mem_map.mp hmem with ⟨compartment, -, rfl⟩
  rfl

/-- A place that is taken in alone holds the compartments inside its record, if they name it. -/
theorem takePlaces_reported (hnodup : (inside.map Backend.Compartment.id).Nodup)
    (hplaceIds : ∀ compartment ∈ inside, compartment.placeId = stored.id) :
    (takePlaces [stored.reported inside] [] .none).value.1.places =
      [Place.ofStored stored inside] := by
  have hlisted : ((listings [stored.reported inside] []).map Listing.id).Nodup := by
    rw [listings_reported_ids]
    exact hnodup
  have hall : (inside.map fun compartment =>
      (⟨compartment.reported, some stored.id⟩ : Listing)).filter
        (fun listing => listing.placeId == some stored.id) =
      inside.map fun compartment => ⟨compartment.reported, some stored.id⟩ := by
    apply List.filter_eq_self.mpr
    intro listing hmem
    rcases List.mem_map.mp hmem with ⟨compartment, hcompartment, rfl⟩
    exact beq_iff_eq.mpr (congrArg some (hplaceIds compartment hcompartment))
  rw [takePlaces_unlisted hlisted listings_reported_games, listings_reported]
  have hsame := congrArg (List.map fun listing : Listing =>
    (Compartment.ofReported (Place.ofReported (stored.reported inside)).value .none
      listing.raw).value.1) hall
  rw [List.map_map (l := inside)] at hsame
  simp only [firstsAfter, List.not_mem_nil, if_false, List.map_cons, List.map_nil]
  exact congrArg (fun compartments => [{ (Place.ofReported (stored.reported [])).value with
    compartments }]) hsame

end

/-- A place that is sent alone is shown with the compartments that were sent inside it. -/
theorem Place.ofPayload_withCompartments {stored : Backend.Place}
    {compartments : List Backend.Compartment}
    (h : (compartments.map Backend.Compartment.id).Nodup) :
    ∃ noted, Place.ofPayload (stored.withCompartments compartments).toInternal = .ok noted ∧
      noted.value = Place.ofStored stored
        (compartments.filter fun compartment => compartment.placeId == stored.id) := by
  have hread := stored.read_withCompartments compartments
  have hnodup : ((compartments.filter fun compartment =>
      compartment.placeId == stored.id).map Backend.Compartment.id).Nodup :=
    h.sublist (List.filter_sublist.map Backend.Compartment.id)
  -- only what names the place is sent inside it
  have hplaces := takePlaces_reported hnodup fun compartment hmem =>
    beq_iff_eq.mp (List.mem_filter.mp hmem).2
  refine ⟨_, Place.isMadeFrom.of_read hread, ?_⟩
  have halone := Place.alone_mem (stored.reported (compartments.filter fun compartment =>
    compartment.placeId == stored.id))
  rw [hplaces] at halone
  exact List.mem_singleton.mp halone

/-! ## Three ways to a place -/

/-- The first place with an identifier is the one that is found. -/
theorem Backend.Store.exists_findPlace? {store : Store} {id : String}
    (h : id ∈ store.places.map Backend.Place.id) :
    ∃ place ∈ firstsAfter Backend.Place.id [] store.places,
      store.findPlace? id = some place ∧ place.id = id := by
  rcases exists_mem_firstsAfter List.not_mem_nil h with ⟨place, hplace, rfl⟩
  refine ⟨place, hplace, ?_, rfl⟩
  rcases mem_firstsAfter_iff.mp hplace with ⟨-, before, after, hlist, hbefore⟩
  rw [Store.findPlace?, List.find?_eq_some_iff_append]
  refine ⟨beq_self_eq_true _, before, after, hlist, ?_⟩
  intro other hother
  rw [Bool.not_eq_true', beq_eq_false_iff_ne]
  intro heq
  exact hbefore (heq ▸ List.mem_map_of_mem hother)

/-- The backend is not said to have more games than it has. -/
theorem Backend.Store.countAll_reported_le (store : Store) (totals : Reported.Totals) :
    (store.reported totals).countAll ≤ store.exactItems := by
  have hlistings : ((listings (store.places.map fun place => place.reported [])
      (store.compartments.map Backend.Compartment.reported)).map fun listing =>
        listing.raw.stored) =
      store.compartments.map fun compartment => compartment.storedItems.toNat := by
    rw [listings_ofStore, List.map_map]
    apply List.map_congr_left
    intro compartment _
    have hunlisted : compartment.reported.stored =
        0 + (compartment.reported.storedItems.getD 0).toNat := rfl
    rw [Function.comp, hunlisted, compartment.reported_storedItems, Nat.zero_add]
    rfl
  have hstorefronts : ((store.storefronts.map Backend.Storefront.reported).map fun storefront =>
      storefront.games.length) = store.storefronts.map fun storefront =>
        storefront.games.length := by
    rw [List.map_map]
    apply List.map_congr_left
    intro storefront _
    exact List.length_map _
  rw [exactItems, ← hlistings, ← hstorefronts]
  exact (store.reported totals).countAll_le

/-- What the backend counts the client can count, with the places of the overview. -/
theorem Library.ofPayload_libraryData {store : Store} {data : Json}
    (h : store.libraryData? = some data) :
    ∃ noted, Library.ofPayload data.toInternal = .ok (some noted) ∧
      noted.value.places = (Batch.ofStore store).places := by
  rcases store.libraryData?_eq_some_iff.mp h with ⟨hfits, rfl⟩
  rcases store.read_library store.exactItems with ⟨totals, hread⟩
  have hcount := lt_of_le_of_lt (store.countAll_reported_le totals) hfits
  rw [← itemsOf_all] at hcount
  rw [Library.ofPayload_of_read hread, censusFor_of_isSome rfl rfl,
    Census.ofLocations?_of_fits hcount]
  exact ⟨_, rfl, rfl⟩

/-- However a stored place is asked for, the same place is shown, and it is shown once. It can be
asked for in these three ways unless the games of the store outgrow a word; then there is no
library. -/
theorem Backend.Store.place_shown_alike {store : Store}
    (hcompartments : (store.compartments.map Backend.Compartment.id).Nodup) {id : String}
    (hplace : id ∈ store.places.map Backend.Place.id) :
    ∃ data place batch, store.getPlace id = .ok data ∧
      Place.ofPayload data.toInternal = .ok place ∧
      Batch.ofPayload store.batchData.toInternal = .ok batch ∧
      (batch.value.places.filter fun other => other.id == id) = [place.value] ∧
      (store.libraryData? = none ↔ UInt64.size ≤ store.exactItems) ∧
      ∀ whole, store.libraryData? = some whole →
        ∃ library, Library.ofPayload whole.toInternal = .ok (some library) ∧
          (library.value.places.filter fun other => other.id == id) = [place.value] := by
  rcases store.exists_findPlace? hplace with ⟨stored, hfirst, hfind, rfl⟩
  obtain ⟨place, halone, hvalue⟩ := @Place.ofPayload_withCompartments stored _ hcompartments
  rcases Batch.ofPayload_batchData store with ⟨batch, hbatch, hbatchValue⟩
  have honce : ((Batch.ofStore store).places.filter fun other => other.id == stored.id) =
      [place.value] := by
    rw [Batch.ofStore_places hcompartments, List.filter_map, hvalue]
    have hsingle := filter_key_eq_singleton Backend.Place.id
      (nodup_firstsAfter Backend.Place.id [] store.places) hfirst
    exact congrArg (List.map fun place : Backend.Place =>
      Place.ofStored place (store.inside place.id)) hsingle
  refine ⟨stored.withCompartments store.compartments, place, batch, ?_, halone, hbatch, ?_,
    store.libraryData?_eq_none_iff, ?_⟩
  · rw [Store.getPlace, hfind]
  · rw [hbatchValue]
    exact honce
  · intro whole hwhole
    rcases Library.ofPayload_libraryData hwhole with ⟨library, hlibrary, hplaces⟩
    refine ⟨library, hlibrary, ?_⟩
    rw [hplaces]
    exact honce

/-- A store in which two places share an identifier and a compartment is in no place. -/
def crowdedStore : Store :=
  let place (id name : String) : Backend.Place :=
    ⟨id, name, "house", none, none, "2020-01-01T00:00:00Z", "2020-01-01T00:00:00Z"⟩
  let compartment (id placeId : String) : Backend.Compartment :=
    ⟨id, "Shelf", "shelf", placeId, none, none, 3, "2020-01-01T00:00:00Z", "2020-01-01T00:00:00Z"⟩
  { places := [place "q" "Attic", place "p" "Home", place "p" "Cellar"]
    compartments := [compartment "b" "p", compartment "x" "r", compartment "a" "p"]
    storefronts := [] }

theorem crowdedStore_shown_alike :
    (crowdedStore.compartments.map Backend.Compartment.id).Nodup ∧
      "p" ∈ crowdedStore.places.map Backend.Place.id ∧
      ∃ data place batch whole library, crowdedStore.getPlace "p" = .ok data ∧
        Place.ofPayload data.toInternal = .ok place ∧
        Batch.ofPayload crowdedStore.batchData.toInternal = .ok batch ∧
        (batch.value.places.filter fun other => other.id == "p") = [place.value] ∧
        crowdedStore.libraryData? = some whole ∧
        Library.ofPayload whole.toInternal = .ok (some library) ∧
        (library.value.places.filter fun other => other.id == "p") = [place.value] := by
  have hcompartments : (crowdedStore.compartments.map Backend.Compartment.id).Nodup := by decide
  have hplace : "p" ∈ crowdedStore.places.map Backend.Place.id := by decide
  have hfits : crowdedStore.exactItems < UInt64.size := by decide
  have hwhole : crowdedStore.libraryData? =
      some (crowdedStore.libraryData crowdedStore.exactItems) :=
    crowdedStore.libraryData?_eq_some_iff.mpr ⟨hfits, rfl⟩
  rcases Backend.Store.place_shown_alike hcompartments hplace with
    ⟨data, place, batch, hdata, halone, hbatch, honce, -, hlibrary⟩
  rcases hlibrary _ hwhole with ⟨library, htaken, hlisted⟩
  exact ⟨hcompartments, hplace, data, place, batch, _, library, hdata, halone, hbatch, honce,
    hwhole, htaken, hlisted⟩

end GameShelf
