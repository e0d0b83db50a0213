import GameShelf.Proofs.Intake.Batch

/-!
# References within a batch

A batch holds its compartments twice, in one list and place by place, and every compartment shows
a copy of some fields of its place. All of this agrees, whatever records the batch was made from.

* `Compartment.Shows`: a compartment shows the fields of a place.
* `Batch.CrossReferenced`: a batch that agrees with itself.
* `takePlaces_crossReferenced`: every batch that is taken in does, and it has exactly the kept
  records.
-/

namespace GameShelf

/-- What a compartment shows of its place is what the place says. -/
def Compartment.Shows (compartment : Compartment) (place : Place) : Prop :=
  compartment.placeId = place.id ∧ compartment.placeName = place.name ∧
    compartment.placeKind = place.kind ∧ compartment.placeColor = place.color

/-- A batch whose places and compartments refer to each other rightly. -/
structure Batch.CrossReferenced (batch : Batch) : Prop where
  places_nodup : (batch.places.map Place.id).Nodup
  compartments_nodup : (batch.compartments.map Compartment.id).Nodup
  /-- Of the places of the batch exactly one is the place of a compartment. -/
  placed : ∀ compartment ∈ batch.compartments, ∃ place,
    (batch.places.filter fun other => other.id == compartment.placeId) = [place] ∧
      compartment.Shows place
  /-- A place holds the compartments that name it, in the order in which the batch has them. -/
  held : ∀ place ∈ batch.places,
    place.compartments = batch.compartments.filter fun c => c.placeId == place.id

/-! ## Which records are kept -/

/-- Kept records have different identifiers: each comes of the first listing of its own. -/
theorem nodup_keptCompartments (roster : Roster) (seen : List String) (listings : List Listing) :
    ((keptCompartments roster seen listings).map fun record => record.2.id).Nodup := by
  have hfirst := nodup_firstsAfter Listing.id seen listings
  unfold List.Nodup at hfirst ⊢
  rw [List.pairwise_map] at hfirst ⊢
  unfold keptCompartments
  refine hfirst.filterMap _ ?_
  intro listing other hne record hrecord record' hrecord'
  -- a record carries the identifier of its listing
  rcases Option.map_eq_some_iff.mp hrecord with ⟨found, -, rfl⟩
  rcases Option.map_eq_some_iff.mp hrecord' with ⟨found', -, rfl⟩
  exact hne

section

variable (places : List Reported.Place) (beside : List Reported.Compartment) (claims : Claims)

/-- The places of a batch carry the identifiers of the first records. -/
theorem takePlaces_ids :
    (takePlaces places beside claims).value.1.places.map Place.id =
      (firstsAfter Reported.Place.id [] places).map Reported.Place.id := by
  rw [takePlaces_places, rosterOf, Roster.empty_addAll_places, List.map_map, List.map_map]
  rfl

theorem nodup_takePlaces_ids :
    ((takePlaces places beside claims).value.1.places.map Place.id).Nodup := by
  rw [takePlaces_ids]
  exact nodup_firstsAfter Reported.Place.id [] places

/-- The compartments of a batch carry the identifiers of the first listings that have a place. -/
theorem takePlaces_listed :
    (takePlaces places beside claims).value.1.compartments.map (fun c => (c.placeId, c.id)) =
      (firstsAfter Listing.id [] (listings places beside)).filterMap fun listing =>
        (listing.placeId.filter fun id => id ∈ places.map Reported.Place.id).map fun id =>
          (id, listing.id) := by
  have hkept := congrArg (List.map fun record : String × Reported.Compartment =>
    (record.1, record.2.id)) (keptIn_ids places beside)
  rw [List.map_map, List.map_filterMap] at hkept
  rw [takePlaces_compartment_ids]
  refine hkept.trans (List.filterMap_congr fun listing _ => ?_)
  rw [Option.map_map]
  rfl

theorem nodup_takePlaces_compartment_ids :
    ((takePlaces places beside claims).value.1.compartments.map Compartment.id).Nodup := by
  have hids := congrArg (List.map Prod.snd) (takePlaces_compartment_ids places beside claims)
  rw [List.map_map, List.map_map] at hids
  have hkept := nodup_keptCompartments (rosterOf places) [] (listings places beside)
  exact hids ▸ hkept

end

/-! ## Compartments and their places -/

/-- What a compartment shows of its place as it is taken in. -/
theorem Compartment.shows_ofReported (place : Place) (claims : Claims)
    (raw : Reported.Compartment) : (Compartment.ofReported place claims raw).value.1.Shows place :=
  ⟨rfl, rfl, rfl, rfl⟩

/-- A compartment of a batch shows a place of the batch. -/
theorem exists_place_of_mem_takePlaces {places : List Reported.Place}
    {beside : List Reported.Compartment} {claims : Claims} {compartment : Compartment}
    (h : compartment ∈ (takePlaces places beside claims).value.1.compartments) :
    ∃ place ∈ (takePlaces places beside claims).value.1.places, compartment.Shows place := by
  have htaken := h
  rw [(takePlaces_took places beside claims).1] at htaken
  rcases exists_record_of_mem_takeRecords htaken with ⟨record, hrecord, before, rfl⟩
  -- the place of the record is in the batch, with its compartments
  rw [takePlaces_places]
  refine ⟨_, List.mem_map_of_mem (mem_places_of_mem_keptIn hrecord), ?_⟩
  exact Compartment.shows_ofReported record.1 before record.2

/-- A compartment that is listed once, with a place that has a record, is in the batch. -/
theorem exists_taken_of_listing {places : List Reported.Place}
    {beside : List Reported.Compartment} (claims : Claims) {listing : Listing}
    (hlisting : listing ∈ listings places beside)
    (honly : ∀ other ∈ listings places beside, other.id = listing.id → other = listing)
    {placeId : String} (hplace : listing.placeId = some placeId)
    (hplaces : placeId ∈ places.map Reported.Place.id) :
    ∃ compartment ∈ (takePlaces places beside claims).value.1.compartments,
      compartment.id = listing.id ∧ compartment.placeId = placeId := by
  have hlisted : listing.id ∈ (listings places beside).map Listing.id :=
    List.mem_map_of_mem hlisting
  rcases exists_mem_firstsAfter List.not_mem_nil hlisted with ⟨first, hfirst, hid⟩
  obtain rfl := honly first ((firstsAfter_sublist _ _ _).subset hfirst) hid
  have htaken : (placeId, first.id) ∈
      (takePlaces places beside claims).value.1.compartments.map fun c => (c.placeId, c.id) := by
    rw [takePlaces_listed]
    refine List.mem_filterMap.mpr ⟨first, hfirst, ?_⟩
    simp only [hplace, Option.filter_some, hplaces, decide_true, if_true, Option.map_some]
  rcases List.mem_map.mp htaken with ⟨compartment, hcompartment, hpair⟩
  rcases Prod.mk.inj hpair with ⟨hplaceId, hsame⟩
  exact ⟨compartment, hcompartment, hsame, hplaceId⟩

/-! ## Batches -/

/-- The places and compartments of a batch refer to each other rightly. The places are those of the
first records, and the compartments those of the first listings that have such a place. -/
theorem takePlaces_crossReferenced (places : List Reported.Place)
    (beside : List Reported.Compartment) (claims : Claims) :
    let batch := (takePlaces places beside claims).value.1
    batch.CrossReferenced ∧
      batch.places.map Place.id = (firstsAfter Reported.Place.id [] places).map Reported.Place.id ∧
      batch.compartments.map (fun c => (c.placeId, c.id)) =
        (firstsAfter Listing.id [] (listings places beside)).filterMap fun listing =>
          (listing.placeId.filter fun id => id ∈ places.map Reported.Place.id).map fun id =>
            (id, listing.id) := by
  intro batch
  refine ⟨?_, takePlaces_ids places beside claims, takePlaces_listed places beside claims⟩
  constructor
  case places_nodup => exact nodup_takePlaces_ids places beside claims
  case compartments_nodup => exact nodup_takePlaces_compartment_ids places beside claims
  case placed =>
    intro compartment hcompartment
    rcases exists_place_of_mem_takePlaces hcompartment with ⟨place, hplace, hshows⟩
    refine ⟨place, ?_, hshows⟩
    rw [hshows.1]
    exact filter_key_eq_singleton Place.id (nodup_takePlaces_ids places beside claims) hplace
  case held =>
    intro place hplace
    simp only [batch, takePlaces_places] at hplace
    rcases List.mem_map.mp hplace with ⟨base, -, rfl⟩
    rfl

end GameShelf
