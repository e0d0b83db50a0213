import GameShelf.Proofs.Intake.Batch

/-!
# Compartments inside places or beside them

It makes no difference whether a compartment comes inside the record of its place or in the list
beside the places, as long as its record there names the place.

* `Reported.Place.emptied`, `flattened`: places without compartments, and the compartments on
  their own.
* `Progress.addAll_standalone`: a run over listings and one over the same records on their own
  come to the same.
* `takePlaces_flattened`: so do a batch and the same batch with all compartments beside the
  places.
-/

namespace GameShelf

/-! ## Records on their own -/

/-- The record of a place without its compartments. -/
def Reported.Place.emptied (place : Reported.Place) : Reported.Place :=
  { place with compartments := [] }

/-- The record of a compartment as it stands beside the places when it was inside one: it names
that place unless it names one already. -/
def Reported.Compartment.namingPlace (placeId : String) (raw : Reported.Compartment) :
    Reported.Compartment :=
  { raw with placeId := raw.placeId <|> some placeId }

/-- The compartments in the records of places, each on its own. -/
def flattened (places : List Reported.Place) : List Reported.Compartment :=
  places.flatMap fun place => place.compartments.map (Reported.Compartment.namingPlace place.id)

namespace Listing

/-- The listing of the same compartment beside the places. -/
def standalone (listing : Listing) : Listing :=
  ⟨{ listing.raw with placeId := listing.placeId }, none⟩

/-- Beside the places only the record itself can name a place. -/
theorem placeId_beside (raw : Reported.Compartment) :
    (⟨raw, none⟩ : Listing).placeId = raw.placeId := by
  rw [placeId]
  cases raw.placeId <;> rfl

theorem standalone_beside (raw : Reported.Compartment) :
    standalone ⟨raw, none⟩ = ⟨raw, none⟩ := by
  rw [standalone, placeId_beside]

@[simp] theorem standalone_id (listing : Listing) : listing.standalone.id = listing.id := rfl

@[simp] theorem standalone_placeId (listing : Listing) :
    listing.standalone.placeId = listing.placeId :=
  placeId_beside _

end Listing

/-- What a place is made of does not show whether compartments are in its record. -/
theorem Roster.addAll_emptied (roster : Roster) (places : List Reported.Place) :
    roster.addAll (places.map Reported.Place.emptied) = roster.addAll places := by
  induction places generalizing roster with
  | nil => rfl
  | cons place rest ih =>
    have hadd : roster.add place.emptied = roster.add place := rfl
    simp only [List.map_cons, addAll, hadd, ih]

/-- Beside emptied places, the compartments are listed in the same order, each on its own. -/
theorem listings_flattened (places : List Reported.Place) (beside : List Reported.Compartment) :
    listings (places.map Reported.Place.emptied) (flattened places ++ beside) =
      (listings places beside).map Listing.standalone := by
  have hinside : ∀ place : Reported.Place,
      (place.compartments.map (Reported.Compartment.namingPlace place.id)).map
          (fun raw => (⟨raw, none⟩ : Listing)) =
        (place.compartments.map fun raw => (⟨raw, some place.id⟩ : Listing)).map
          Listing.standalone := by
    intro place
    rw [List.map_map, List.map_map]
    rfl
  have hempty : (places.map Reported.Place.emptied).flatMap
      (fun place => place.compartments.map fun raw => (⟨raw, some place.id⟩ : Listing)) = [] := by
    rw [List.flatMap_map]
    exact List.flatMap_eq_nil_iff.mpr fun _ _ => rfl
  simp only [listings, hempty, List.nil_append, flattened, List.map_append, List.map_flatMap,
    hinside, List.map_map, Function.comp_def, Listing.standalone_beside]

/-! ## The run over listings -/

namespace Progress

/-- After a listing every place still holds the compartments that name it. -/
theorem holding_add {roster : Roster} (h : roster.WellIndexed) {progress : Progress}
    (hroster : progress.roster = roster.holding progress.compartments) (listing : Listing) :
    (progress.add listing).value.roster =
      roster.holding (progress.add listing).value.compartments :=
  (addAll_took h progress hroster [listing]).roster_eq

/-- A listing inside a place that is in the batch is taken in like the same one on its own. -/
theorem add_standalone {roster : Roster} (h : roster.WellIndexed) {progress : Progress}
    (hroster : progress.roster = roster.holding progress.compartments) {listing : Listing}
    (hnested : ∀ id, listing.nestedUnder = some id → id ∈ roster.ids) :
    progress.add listing.standalone = progress.add listing := by
  by_cases hseen : listing.id ∈ progress.seen
  · have hother : listing.standalone.id ∈ progress.seen := hseen
    rw [add_of_seen hseen, add_of_seen hother]
  · have hother : listing.standalone.id ∉ progress.seen := hseen
    have hstandalone : listing.standalone.placed? roster =
        (listing.placed? roster).map fun found => (found.1, listing.standalone.raw) := by
      rw [Listing.placed?, Listing.placed?, Listing.standalone_placeId, Option.map_map]
      rfl
    cases hplaced : listing.placed? roster with
    | none =>
      rw [hplaced] at hstandalone
      -- the place that a record is in is there, so the record itself names the missing one
      have hnamed : listing.placeId = listing.raw.placeId := by
        cases hraw : listing.raw.placeId with
        | some id => rw [Listing.placeId, hraw]; rfl
        | none =>
          cases hunder : listing.nestedUnder with
          | none => rw [Listing.placeId, hraw, hunder]; rfl
          | some id =>
            rcases h.find?_of_mem (hnested id hunder) with ⟨slot, place, hfind, -⟩
            have hplace : listing.placeId = some id := by rw [Listing.placeId, hraw, hunder]; rfl
            rw [Listing.placed?, hplace, Option.bind_some, hfind] at hplaced
            exact absurd hplaced (by simp)
      rw [add_of_orphan hroster hseen hplaced,
        add_of_orphan hroster hother hstandalone]
      simp only [Listing.standalone, hnamed]
      rfl
    | some found =>
      rw [hplaced] at hstandalone
      rcases Option.map_eq_some_iff.mp hplaced with ⟨stands, -, rfl⟩
      rw [add_of_placed h hroster hseen hplaced,
        add_of_placed h hroster hother hstandalone]
      rfl

/-- Listings whose places are in the batch are taken in like the same ones on their own. -/
theorem addAll_standalone {roster : Roster} (h : roster.WellIndexed) (progress : Progress)
    (hroster : progress.roster = roster.holding progress.compartments) (listings : List Listing)
    (hnested : ∀ listing ∈ listings, ∀ id, listing.nestedUnder = some id → id ∈ roster.ids) :
    progress.addAll (listings.map Listing.standalone) = progress.addAll listings := by
  induction listings generalizing progress with
  | nil => rfl
  | cons listing rest ih =>
    have hadd := add_standalone h hroster (hnested listing List.mem_cons_self)
    have hrest := ih (progress.add listing).value (holding_add h hroster listing)
      fun other hother => hnested other (List.mem_cons_of_mem listing hother)
    rw [List.map_cons, addAll, addAll, hadd]
    simp only [bind, Noted.andThen, hrest]

end Progress

/-! ## Whole batches -/

/-- The place in whose record a compartment is listed has a record. -/
theorem nestedUnder_mem_ids {places : List Reported.Place} {beside : List Reported.Compartment}
    {listing : Listing} (h : listing ∈ listings places beside) {id : String}
    (hnested : listing.nestedUnder = some id) : id ∈ (rosterOf places).ids := by
  rw [mem_rosterOf_ids]
  rcases List.mem_append.mp h with h | h
  · rcases List.mem_flatMap.mp h with ⟨place, hplace, h⟩
    rcases List.mem_map.mp h with ⟨raw, -, rfl⟩
    obtain rfl := Option.some.inj hnested
    exact List.mem_map_of_mem hplace
  · rcases List.mem_map.mp h with ⟨raw, -, rfl⟩
    exact absurd hnested (by simp)

/-- A batch with its compartments inside the places comes to the same as with all of them beside
the places: the same places and compartments, the same notices, the same owners of games. -/
theorem takePlaces_flattened (places : List Reported.Place) (beside : List Reported.Compartment)
    (claims : Claims) :
    takePlaces (places.map Reported.Place.emptied) (flattened places ++ beside) claims =
      takePlaces places beside claims := by
  have hrun := Progress.addAll_standalone (rosterOf_wellIndexed places)
    { roster := rosterOf places, seen := [], compartments := [], claims }
    (rosterOf_holding_nil places).symm (listings places beside)
    fun listing hlisting _ hnested => nestedUnder_mem_ids hlisting hnested
  rw [takePlaces, takePlaces, Roster.addAll_emptied, listings_flattened]
  simp only [bind, Noted.andThen]
  rw [← rosterOf, hrun]

/-- A compartment inside a further record of its place, and the same one beside the places. -/
example :
    let shelf : Reported.Compartment :=
      ⟨"s", "Shelf", none, none, none, none, some 3, none, none, none⟩
    let attic (inside : List Reported.Compartment) : Reported.Place :=
      ⟨"attic", "Attic", none, none, none, inside, none, none⟩
    flattened [attic [], attic [shelf]] = [{ shelf with placeId := some "attic" }] ∧
      (takePlaces [attic [], attic [shelf]] [] .none).value.1.compartments.length = 1 := by
  decide

end GameShelf
