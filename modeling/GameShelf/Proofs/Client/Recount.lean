import GameShelf.Proofs.Backend.Consistency
import GameShelf.Proofs.Client.Shown
import GameShelf.Proofs.Intake.Account

/-!
# Counting again

The backend counts what it stores, and the client counts what it shows of a library. For a
consistent store nothing is lost between them, and they count the same.

* `Library.ShowsAll`: everything that is stored is shown.
* `Library.ShowsAll.totals`: what is shown then comes to what is stored.
* `Backend.Store.recount`: the client counts what the backend did.
-/

namespace GameShelf

open Backend (Store)

/-! ## What is stored and what is shown -/

/-- A library shows everything that is stored: the places with the compartments in them, what each
compartment holds, and the storefronts with their games. -/
structure Library.ShowsAll (store : Store) (library : Library) : Prop where
  places : library.places.map (fun place => (place.id, place.compartmentIds)) =
    store.places.map fun place => (place.id, (store.inside place.id).map Backend.Compartment.id)
  compartments : ((library.places.flatMap Place.compartments).map fun compartment =>
      (compartment.id, compartment.storedItems)).Perm
    (store.compartments.map fun compartment =>
      (compartment.id, compartment.storedItems.toNat))
  storefronts : library.storefronts.map
      (fun storefront => (storefront.id, storefront.games.map Game.id)) =
    store.storefronts.map fun storefront =>
      (storefront.id, storefront.games.map Backend.Game.id)

namespace Library.ShowsAll

variable {store : Store} {library : Library}

theorem length_places (h : library.ShowsAll store) :
    library.places.length = store.places.length := by
  have hlength := congrArg List.length h.places
  rw [List.length_map, List.length_map] at hlength
  exact hlength

theorem length_storefronts (h : library.ShowsAll store) :
    library.storefronts.length = store.storefronts.length := by
  have hlength := congrArg List.length h.storefronts
  rw [List.length_map, List.length_map] at hlength
  exact hlength

theorem sum_places (h : library.ShowsAll store) :
    (library.places.map Place.exactItems).sum =
      (store.compartments.map fun compartment => compartment.storedItems.toNat).sum := by
  have hsame := (h.compartments.map Prod.snd).sum_eq
  rw [List.map_map, List.map_map, List.map_flatMap, List.flatMap_def, List.sum_flatten,
    List.map_map] at hsame
  exact hsame

theorem sum_storefronts (h : library.ShowsAll store) :
    (library.storefronts.map Storefront.storedItems).sum =
      (store.storefronts.map fun storefront => storefront.games.length).sum := by
  have hsame := congrArg (fun shown => (shown.map fun pair => pair.2.length).sum) h.storefronts
  simp only [List.map_map, Function.comp_def, List.length_map] at hsame
  exact hsame

/-- What is shown comes to what the backend counts. -/
theorem totals (h : library.ShowsAll store) :
    (Census.unlimited library.places library.storefronts).locations.total =
        store.locationCount ∧
      itemsOf library.places library.storefronts = store.exactItems := by
  constructor
  · rw [Store.locationCount, ← h.length_places, ← h.length_storefronts]
    rfl
  · rw [itemsOf, h.sum_places, h.sum_storefronts, Store.exactItems]

end Library.ShowsAll

/-! ## The library of a consistent store -/

theorem Compartment.storedItems_ofStored (place : Place) (stored : Backend.Compartment) :
    (Compartment.ofStored place stored).storedItems = stored.storedItems.toNat := by
  have hreported : (Compartment.ofStored place stored).storedItems =
      (stored.reported.storedItems.getD 0).toNat := rfl
  rw [hreported, stored.reported_storedItems]
  rfl

section

variable {store : Store}

/-- In the overview of a consistent store every place is shown. -/
theorem Batch.ofStore_places_of_consistent (h : store.Consistent) :
    (Batch.ofStore store).places =
      store.places.map fun place => Place.ofStored place (store.inside place.id) := by
  rw [Batch.ofStore_places h.compartments_nodup,
    firstsAfter_eq_self h.places_nodup fun _ _ => List.not_mem_nil]

/-- Place by place, the stored compartments are only reordered. -/
theorem Backend.Store.Consistent.inside_perm (h : store.Consistent) :
    (store.places.flatMap fun place => store.inside place.id).Perm store.compartments := by
  have hperm := perm_flatMap_filter Backend.Compartment.placeId h.places_nodup h.placed
  rw [List.flatMap_map] at hperm
  exact hperm

/-- The identifiers of the games that are reported are the stored ones. -/
theorem reported_games_ids (storefronts : List Backend.Storefront) :
    ((storefronts.map Backend.Storefront.reported).flatMap Reported.Storefront.games).map
        Reported.Game.id =
      (storefronts.flatMap Backend.Storefront.games).map Backend.Game.id := by
  rw [List.flatMap_map, List.map_flatMap, List.map_flatMap]
  refine List.flatMap_congr fun storefront _ => ?_
  rw [Backend.Storefront.reported, List.map_map]
  rfl

theorem batchOf_reported (store : Store) (totals : Reported.Totals) :
    batchOf (store.reported totals) = takePlaces (store.places.map fun place => place.reported [])
      (store.compartments.map Backend.Compartment.reported) .none := rfl

/-- The compartments of a store list no games. -/
theorem batchOf_leaves_games (store : Store) (totals : Reported.Totals) :
    (batchOf (store.reported totals)).value.2 = .none ∧
      gameNotices (batchOf (store.reported totals)).notices = [] := by
  rw [batchOf_reported]
  exact takePlaces_leaves_games (listings_ofStore_games store) .none

/-- So all games are free for the storefronts. -/
theorem frontsOf_reported (store : Store) (totals : Reported.Totals) :
    frontsOf (store.reported totals) =
      takeStorefronts .none (store.storefronts.map Backend.Storefront.reported) := by
  rw [frontsOf, (batchOf_leaves_games store totals).1]
  rfl

section

variable (h : store.Consistent)
  (hgames : ((store.storefronts.flatMap Backend.Storefront.games).map Backend.Game.id).Nodup)
  (totals : Reported.Totals)

include h

/-- The places of a consistent store are shown with the compartments in them. -/
theorem places_of_consistent :
    (batchOf (store.reported totals)).value.1.places.map
        (fun place => (place.id, place.compartmentIds)) =
      store.places.map fun place =>
        (place.id, (store.inside place.id).map Backend.Compartment.id) := by
  have hplaces : (batchOf (store.reported totals)).value.1.places = _ :=
    Batch.ofStore_places_of_consistent h
  rw [hplaces, List.map_map]
  apply List.map_congr_left
  intro place _
  refine congrArg (Prod.mk place.id) ?_
  rw [Place.compartmentIds, Place.ofStored_compartments, List.map_map]
  rfl

/-- Its compartments are shown place by place, with what they hold. -/
theorem compartments_of_consistent :
    (((batchOf (store.reported totals)).value.1.places.flatMap Place.compartments).map
        fun compartment => (compartment.id, compartment.storedItems)).Perm
      (store.compartments.map fun compartment =>
        (compartment.id, compartment.storedItems.toNat)) := by
  have hplaces : (batchOf (store.reported totals)).value.1.places = _ :=
    Batch.ofStore_places_of_consistent h
  have hinside : ((batchOf (store.reported totals)).value.1.places.flatMap
      Place.compartments).map (fun compartment => (compartment.id, compartment.storedItems)) =
        (store.places.flatMap fun place => store.inside place.id).map fun compartment =>
          (compartment.id, compartment.storedItems.toNat) := by
    rw [hplaces, List.flatMap_map, List.map_flatMap, List.map_flatMap]
    refine List.flatMap_congr fun place _ => ?_
    rw [Place.ofStored_compartments, List.map_map]
    apply List.map_congr_left
    intro compartment _
    exact congrArg (Prod.mk compartment.id) (Compartment.storedItems_ofStored _ compartment)
  rw [hinside]
  exact h.inside_perm.map _

include hgames

/-- Its storefronts are shown with their games. -/
theorem storefronts_of_consistent :
    (frontsOf (store.reported totals)).value.1.map
        (fun storefront => (storefront.id, storefront.games.map Game.id)) =
      store.storefronts.map fun storefront =>
        (storefront.id, storefront.games.map Backend.Game.id) := by
  have hids : (store.storefronts.map Backend.Storefront.reported).map Reported.Storefront.id =
      store.storefronts.map Backend.Storefront.id := List.map_map
  have hnodup := h.storefronts_nodup
  rw [← hids] at hnodup
  have hfree := hgames
  rw [← reported_games_ids] at hfree
  rw [frontsOf_reported, takeStorefronts_free hnodup hfree fun _ _ => List.not_mem_nil,
    List.map_map]
  apply List.map_congr_left
  intro storefront _
  refine congrArg (Prod.mk storefront.id) ?_
  rw [Backend.Storefront.reported, List.map_map]
  rfl

/-- Of a consistent store everything is shown. -/
theorem Library.showsAll_of_consistent (census : Census) :
    Library.ShowsAll store
      { places := (batchOf (store.reported totals)).value.1.places
        storefronts := (frontsOf (store.reported totals)).value.1
        census } where
  places := places_of_consistent h totals
  compartments := compartments_of_consistent h totals
  storefronts := storefronts_of_consistent h hgames totals

/-- Of a consistent store nothing is dropped: there is nothing to say but of unknown tags. -/
theorem isAboutTag_of_consistent :
    ∀ notice ∈ (batchOf (store.reported totals)).notices ++
      (frontsOf (store.reported totals)).notices, notice.isAboutTag = true := by
  have hbatchRecords : (batchOf (store.reported totals)).notices.filter Notice.isAboutRecord =
      [] := by
    have hids : (store.places.map fun place => place.reported []).map Reported.Place.id =
        store.places.map Backend.Place.id := List.map_map
    rw [batchOf_reported]
    apply takePlaces_recordNotices_eq_nil
    · rw [hids]
      exact h.places_nodup
    · -- every compartment names a stored place
      rw [hids, listings_ofStore]
      intro listing hmem
      rcases List.mem_map.mp hmem with ⟨compartment, hstored, rfl⟩
      exact ⟨compartment.placeId, h.placed compartment hstored, rfl⟩
  have hfrontRecords : (frontsOf (store.reported totals)).notices.filter Notice.isAboutRecord =
      [] := by
    rw [frontsOf_reported]
    apply takeStorefronts_recordNotices_eq_nil
    rw [List.map_map]
    exact h.storefronts_nodup
  have hfrontGames : gameNotices (frontsOf (store.reported totals)).notices = [] := by
    rw [frontsOf_reported]
    apply takeStorefronts_gameNotices_eq_nil
    · rw [reported_games_ids]
      exact hgames
    · exact fun _ _ => List.not_mem_nil
  apply isAboutTag_of_mem
  · rw [gameNotices_append, (batchOf_leaves_games store totals).2, hfrontGames]
    rfl
  · rw [List.filter_append, hbatchRecords, hfrontRecords]
    rfl

end

end

/-- The totals stand in the data of the whole library. -/
theorem Backend.Store.libraryData_totals (store : Store) (items : Nat) :
    ∃ fields, store.libraryData items = .record fields ∧
      Json.field? fields "totals" = some (store.totals items) :=
  ⟨_, rfl, by
    simp only [Json.ofFields, List.foldl_cons, List.foldl_nil, Json.insert, String.reduceLT,
      String.reduceEq, if_true, if_false]
    rfl⟩

/-- Of a consistent store whose games have different identifiers the client drops nothing, and
counts what the backend says in the same data. There are such data unless the games of the store
outgrow a word. -/
theorem Backend.Store.recount {store : Store} (h : store.Consistent)
    (hgames : ((store.storefronts.flatMap Backend.Storefront.games).map Backend.Game.id).Nodup) :
    (store.libraryData? = none ↔ UInt64.size ≤ store.exactItems) ∧
      ∀ data, store.libraryData? = some data →
        ∃ noted fields, Library.ofPayload data.toInternal = .ok (some noted) ∧
          data = .record fields ∧
          noted.value.census.source = .recomputed ∧
          (∀ notice ∈ noted.notices, notice.isAboutTag = true) ∧
          noted.value.ShowsAll store ∧
          Json.field? fields "totals" = some (Json.recordOf
            [("locations", .nat noted.value.census.locations.total),
             ("items", .nat noted.value.census.items.total)]) := by
  refine ⟨store.libraryData?_eq_none_iff, fun data hdata => ?_⟩
  rcases store.libraryData?_eq_some_iff.mp hdata with ⟨hfits, rfl⟩
  rcases store.read_library store.exactItems with ⟨totals, hread⟩
  rcases store.libraryData_totals store.exactItems with ⟨fields, hfields, htotals⟩
  have hshows := Library.showsAll_of_consistent h hgames totals
    (Census.unlimited (batchOf (store.reported totals)).value.1.places
      (frontsOf (store.reported totals)).value.1)
  rcases hshows.totals with ⟨hlocations, hitems⟩
  have htaken := Library.ofPayload_of_read hread
  rw [censusFor_of_isSome rfl rfl, Census.ofLocations?_of_fits (hitems ▸ hfits)] at htaken
  refine ⟨_, fields, htaken, hfields, rfl, isAboutTag_of_consistent h hgames totals, hshows, ?_⟩
  rw [htotals, Store.totals, ← hlocations, ← hitems]
  rfl

/-- A store with compartments in two places, in no order, and games in two storefronts. -/
def scatteredStore : Store :=
  let now := "2020-01-01T00:00:00Z"
  let place (id : String) : Backend.Place := ⟨id, "Home", "house", none, none, now, now⟩
  let compartment (id placeId : String) (storedItems : UInt32) : Backend.Compartment :=
    ⟨id, "Box", "tray", placeId, none, none, storedItems, now, now⟩
  let game (id : String) : Backend.Game := ⟨id, "Go", none, none⟩
  let storefront (id : String) (games : List Backend.Game) : Backend.Storefront :=
    { id, name := "Shop", platform := "steam", isSubscription := false, isActive := true,
      cost := none, cycle := "monthly", nextPayment := none, method := "visa", games,
      created := now, updated := now }
  { places := [place "q", place "p"]
    compartments := [compartment "b" "p" 4294967295, compartment "x" "q" 2, compartment "a" "p" 0]
    storefronts :=
      [storefront "p" [game "g", game "f"], storefront "d" [], storefront "c" [game "h"]] }

theorem scatteredStore_recount :
    scatteredStore.Consistent ∧
      ((scatteredStore.storefronts.flatMap Backend.Storefront.games).map Backend.Game.id).Nodup ∧
      ∃ data noted fields, scatteredStore.libraryData? = some data ∧
        Library.ofPayload data.toInternal = .ok (some noted) ∧
        data = .record fields ∧
        noted.value.census.source = .recomputed ∧
        (∀ notice ∈ noted.notices, notice.isAboutTag = true) ∧
        noted.value.ShowsAll scatteredStore ∧
        Json.field? fields "totals" = some (Json.recordOf
          [("locations", .nat noted.value.census.locations.total),
           ("items", .nat noted.value.census.items.total)]) := by
  have h : scatteredStore.Consistent := ⟨by decide, by decide, by decide, by decide⟩
  have hgames : ((scatteredStore.storefronts.flatMap Backend.Storefront.games).map
      Backend.Game.id).Nodup := by decide
  have hfits : scatteredStore.exactItems < UInt64.size := by decide
  have hdata : scatteredStore.libraryData? =
      some (scatteredStore.libraryData scatteredStore.exactItems) :=
    scatteredStore.libraryData?_eq_some_iff.mpr ⟨hfits, rfl⟩
  rcases (Backend.Store.recount h hgames).2 _ hdata with ⟨noted, fields, hrecount⟩
  exact ⟨h, hgames, _, noted, fields, hdata, hrecount⟩

end GameShelf
