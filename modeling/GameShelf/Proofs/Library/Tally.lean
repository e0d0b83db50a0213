import GameShelf.Proofs.Library.Census

/-!
# Tallies of a library

As long as all games fit into a word, nothing that is counted is lost or counted twice: each
location has the games of all places and storefronts of its identifier, and what the locations have
comes to the total. The order of places and storefronts does not matter.

* `Census.Countable`: places and storefronts whose games fit into a word.
* `Census.Tallies`: the counts of given places and storefronts, in exact numbers.
* `Ascend.ext`: there is one way to list given counts of given identifiers.
* `Census.unlimited_perm`: the order does not matter.
* `Census.ofLocations_faithful`: places and storefronts are counted exactly, in whatever order.
-/

namespace GameShelf

/-! ## One way to list counts -/

section

variable {counts other : List (String × ℕ)}

/-- Where identifiers ascend, their counts can be listed anew from the identifiers. -/
theorem eq_map_countAt (h : Ascend counts) :
    counts = (counts.map Prod.fst).map fun id => (id, countAt id counts) := by
  rw [List.map_map]
  refine (List.map_id counts).symm.trans (List.map_congr_left fun entry hentry => ?_)
  exact Prod.ext rfl (countAt_of_mem h hentry).symm

/-- Where identifiers ascend, there is one way to list given counts of given identifiers. -/
theorem Ascend.ext (hcounts : Ascend counts) (hother : Ascend other)
    (hkeys : ∀ id, id ∈ counts.map Prod.fst ↔ id ∈ other.map Prod.fst)
    (hcount : ∀ id, countAt id counts = countAt id other) : counts = other := by
  have hids : counts.map Prod.fst = other.map Prod.fst :=
    List.Pairwise.eq_of_mem_iff hcounts hother hkeys
  calc counts = (counts.map Prod.fst).map fun id => (id, countAt id counts) :=
        eq_map_countAt hcounts
    _ = (other.map Prod.fst).map fun id => (id, countAt id other) := by simp only [hids, hcount]
    _ = other := (eq_map_countAt hother).symm

end

/-! ## Counting a library -/

namespace Census

variable (places : List Place) (storefronts : List Storefront)

/-- The games of places and storefronts fit into a word. -/
def Countable : Prop :=
  itemsOf places storefronts < UInt64.size

/-- How many games all places and all storefronts of an identifier have. -/
def heldAt (id : String) : ℕ :=
  ((places.filter fun place => place.id == id).map Place.exactItems).sum +
    ((storefronts.filter fun storefront => storefront.id == id).map fun storefront =>
      storefront.games.length).sum

/-- A census has the exact numbers of places and storefronts. Each identifier of a place or of a
storefront has one count, of all the games under it, and these counts come to the total. -/
structure Tallies (census : Census) : Prop where
  source : census.source = .recomputed
  ascend : Ascend census.items.byLocation
  ids : ∀ id, id ∈ census.items.byLocation.map Prod.fst ↔
    id ∈ places.map Place.id ∨ id ∈ storefronts.map Storefront.id
  stored : ∀ place ∈ places, place.storedItems? = some place.exactItems
  held : ∀ entry ∈ census.items.byLocation, entry.2 = heldAt places storefronts entry.1
  whole : wholeOf census.items.byLocation = census.items.total
  physical : census.items.physical = (places.map Place.exactItems).sum
  digital : census.items.digital =
    (storefronts.map fun storefront => storefront.games.length).sum
  total : census.items.total = census.items.physical + census.items.digital
  placeCount : census.locations.physical = places.length
  storefrontCount : census.locations.digital = storefronts.length
  locationCount : census.locations.total = census.locations.physical + census.locations.digital
  compartmentCount : census.locations.sublocations =
    (places.map fun place => place.compartments.length).sum

variable {places storefronts}

/-- What a place stores fits into a word if all games do. -/
theorem Countable.storedItems?_eq (h : Countable places storefronts) {place : Place}
    (hplace : place ∈ places) : place.storedItems? = some place.exactItems := by
  have hle : place.exactItems ≤ (places.map Place.exactItems).sum :=
    List.le_sum_of_mem (List.mem_map_of_mem hplace)
  rw [Countable, itemsOf] at h
  exact place.tells_storedItems?.eq_some (by omega)

theorem tallies_unlimited (h : Countable places storefronts) :
    Tallies places storefronts (unlimited places storefronts) where
  source := rfl
  ascend := ascend_byLocation
  ids := fun _ => mem_keys_byLocation
  stored := fun _ => h.storedItems?_eq
  held := fun _ => entry_byLocation
  whole := wholeOf_byLocation
  physical := rfl
  digital := rfl
  total := rfl
  placeCount := rfl
  storefrontCount := rfl
  locationCount := rfl
  compartmentCount := rfl

section

variable {places' : List Place} {storefronts' : List Storefront}

theorem itemsOf_perm (hplaces : places'.Perm places)
    (hstorefronts : storefronts'.Perm storefronts) :
    itemsOf places' storefronts' = itemsOf places storefronts := by
  rw [itemsOf, (hplaces.map _).sum_eq, (hstorefronts.map _).sum_eq, itemsOf]

theorem byLocation_perm (hplaces : places'.Perm places)
    (hstorefronts : storefronts'.Perm storefronts) :
    byLocation places' storefronts' = byLocation places storefronts := by
  refine ascend_byLocation.ext ascend_byLocation (fun id => ?_) fun id => ?_
  · rw [mem_keys_byLocation, mem_keys_byLocation, (hplaces.map _).mem_iff,
      (hstorefronts.map _).mem_iff]
  · rw [countAt_byLocation, countAt_byLocation,
      itemsOf_perm (hplaces.filter _) (hstorefronts.filter _)]

/-- The order of places and storefronts does not matter. -/
theorem unlimited_perm (hplaces : places'.Perm places)
    (hstorefronts : storefronts'.Perm storefronts) :
    unlimited places' storefronts' = unlimited places storefronts := by
  simp only [unlimited, hplaces.length_eq, hstorefronts.length_eq, (hplaces.map _).sum_eq,
    (hstorefronts.map _).sum_eq, itemsOf_perm hplaces hstorefronts,
    byLocation_perm hplaces hstorefronts]

end

/-- Places and storefronts are counted exactly, with identifiers used by as many of them as there
may be, and it is the same census in whatever order they are. -/
theorem ofLocations_faithful (h : Countable places storefronts) :
    ∃ census, ofLocations? places storefronts = some census ∧
      Tallies places storefronts census ∧
      ∀ places' storefronts', places'.Perm places → storefronts'.Perm storefronts →
        ofLocations? places' storefronts' = some census := by
  refine ⟨_, ofLocations?_of_fits h, tallies_unlimited h, ?_⟩
  intro places' storefronts' hplaces hstorefronts
  rw [Countable, ← itemsOf_perm hplaces hstorefronts] at h
  rw [ofLocations?_of_fits h, unlimited_perm hplaces hstorefronts]

/-- Two places of one identifier, and another place. -/
def crowdedPlaces : List Place :=
  let compartment (placeId : String) (storedItems : Nat) : Compartment :=
    { id := "box", name := "Box", kind := .shelf, placeId, placeName := "Home",
      placeKind := .house, placeColor := none, notes := none, color := none, storedItems,
      games := [], created := none, updated := none }
  let place (id : String) (stored : List Nat) : Place :=
    { id, name := "Home", kind := .house, coordinates := none, color := none,
      compartments := stored.map (compartment id), created := none, updated := none }
  [place "p" [4, 2], place "k" [], place "p" [5]]

/-- Two storefronts of the identifier of a place, and another storefront. -/
def crowdedStorefronts : List Storefront :=
  let storefront (id : String) (games : List String) : Storefront :=
    { id, name := "Shop", platform := .steam, isActive := true,
      billing := ⟨false, none, .monthly, none, .visa⟩,
      games := games.map fun game => ⟨game, "Go", "go", none, none, none, .storefront id⟩
      created := none, updated := none }
  [storefront "p" ["g"], storefront "s" ["f"], storefront "p" ["h", "g"]]

theorem crowded_faithful :
    Countable crowdedPlaces crowdedStorefronts ∧
      ∃ census, ofLocations? crowdedPlaces crowdedStorefronts = some census ∧
        Tallies crowdedPlaces crowdedStorefronts census ∧
        ofLocations? crowdedPlaces.reverse crowdedStorefronts.reverse = some census ∧
        census.items.byLocation = [("k", 0), ("p", 14), ("s", 1)] := by
  have h : Countable crowdedPlaces crowdedStorefronts := by
    rw [Countable]
    decide
  rcases ofLocations_faithful h with ⟨census, hcensus, htallies, hperm⟩
  have hitems : census.items.byLocation = [("k", 0), ("p", 14), ("s", 1)] := by
    obtain rfl := Option.some.inj hcensus
    decide
  exact ⟨h, census, hcensus, htallies,
    hperm _ _ (List.reverse_perm _) (List.reverse_perm _), hitems⟩

end Census

end GameShelf
