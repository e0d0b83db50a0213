import GameShelf.Proofs.Intake.Account
import GameShelf.Proofs.Intake.CrossReference
import GameShelf.Proofs.Intake.Flattening

/-!
# What becomes of records

Every record of a batch is kept, or it is dropped and a notice says so, or it is a further record
of a compartment that was met before and passed over. Which of these becomes of a record is told by
the records alone: a place is looked up among the records of places, without an index beside them.

* `placeFor?`, `Listing.destination?`: the place of an identifier, and of a compartment.
* `placedRecords`: the first records of compartments that go to a place.
* `Progress.addAll_firstsAfter`: further records of a compartment are passed over.
* `Progress.others_addAll`: apart from dropped records, only the kept ones leave notices.
* `Disposal`: what becomes of all records of a batch.
* `takePlaces_disposal`: it does so in every batch.
-/

namespace GameShelf

/-! ## Where compartments go -/

/-- The place with an identifier, as the first record with it says. -/
def placeFor? (places : List Reported.Place) (id : String) : Option Place :=
  (places.find? fun raw => raw.id == id).map fun raw => (Place.ofReported raw).value

/-- The place to which a compartment goes: the one that it names, or else the one in whose record it
is. -/
def Listing.destination? (places : List Reported.Place) (listing : Listing) : Option Place :=
  listing.placeId.bind (placeFor? places)

/-- Looked up through the index, a place is the same. -/
theorem find?_rosterOf (places : List Reported.Place) (id : String) :
    ((rosterOf places).find? id).map Prod.snd = placeFor? places id := by
  have hindexed := rosterOf_wellIndexed places
  unfold placeFor?
  cases hfound : places.find? fun raw => raw.id == id with
  | some raw =>
    rcases find?_key_eq_some_iff.mp hfound with ⟨hfirst, hid⟩
    have hplace : (Place.ofReported raw).value ∈ (rosterOf places).places := by
      rw [rosterOf, Roster.empty_addAll_places]
      exact List.mem_map_of_mem hfirst
    rcases List.getElem?_of_mem hplace with ⟨slot, hslot⟩
    rw [hindexed.find?_eq_some.mpr ⟨hslot, hid⟩]
    rfl
  | none =>
    have hnone : id ∉ (rosterOf places).ids := by
      rw [mem_rosterOf_ids]
      intro hmem
      rcases List.mem_map.mp hmem with ⟨raw, hraw, hid⟩
      exact List.find?_eq_none.mp hfound raw hraw (beq_iff_eq.mpr hid)
    rw [hindexed.find?_of_notMem hnone]
    rfl

/-- A compartment is placed where it goes. -/
theorem Listing.placed?_rosterOf (places : List Reported.Place) (listing : Listing) :
    listing.placed? (rosterOf places) =
      (listing.destination? places).map fun place => (place, listing.raw) := by
  rw [placed?, destination?]
  cases listing.placeId with
  | none => rfl
  | some id =>
    rw [Option.bind_some, Option.bind_some, ← find?_rosterOf, Option.map_map]
    rfl

/-- A compartment goes to a place exactly if it names one that has a record, or names none and is in
such a record. -/
theorem Listing.isSome_destination? (places : List Reported.Place) (listing : Listing) :
    (listing.destination? places).isSome ↔
      ∃ id ∈ places.map Reported.Place.id, listing.placeId = some id := by
  rw [destination?]
  cases listing.placeId with
  | none => simp
  | some id => simp [placeFor?, List.find?_isSome]

/-- The first records of compartments that go to a place, each with that place. -/
def placedRecords (places : List Reported.Place) (beside : List Reported.Compartment) :
    List (Place × Reported.Compartment) :=
  (firstsAfter Listing.id [] (listings places beside)).filterMap fun listing =>
    (listing.destination? places).map fun place => (place, listing.raw)

/-- These are the records that are kept. -/
theorem keptIn_eq_placedRecords (places : List Reported.Place)
    (beside : List Reported.Compartment) : keptIn places beside = placedRecords places beside :=
  List.filterMap_congr fun listing _ => Listing.placed?_rosterOf places listing

/-! ## Runs over listings -/

namespace Progress

/-- A compartment that was not met before has then been met, wherever it goes. -/
theorem seen_add {progress : Progress} {listing : Listing} (h : listing.id ∉ progress.seen) :
    (progress.add listing).value.seen = listing.id :: progress.seen := by
  unfold add
  rw [if_neg (show listing.raw.id ∉ progress.seen from h)]
  cases hfind : listing.placeId.bind progress.roster.find? with
  | none =>
    simp only [hfind]
    rfl
  | some found =>
    simp only [hfind]
    rfl

/-- Further records of a compartment change nothing and leave no notice. -/
theorem addAll_firstsAfter (progress : Progress) (listings : List Listing) :
    progress.addAll (firstsAfter Listing.id progress.seen listings) = progress.addAll listings := by
  induction listings generalizing progress with
  | nil => rfl
  | cons listing rest ih =>
    by_cases hseen : listing.id ∈ progress.seen
    · rw [firstsAfter, if_pos hseen, ih, addAll, add_of_seen hseen]
      rfl
    · -- what follows is told from the identifiers met up to and with this one
      have hrest := ih (progress.add listing).value
      rw [seen_add hseen] at hrest
      rw [firstsAfter, if_neg hseen, addAll, addAll]
      simp only [bind, Noted.andThen, hrest]

/-- Apart from those about dropped records, the notices of a run are what the kept records bring as
they are taken in one after the other. -/
theorem others_addAll {roster : Roster} (h : roster.WellIndexed) (progress : Progress)
    (hroster : progress.roster = roster.holding progress.compartments)
    (listings : List Listing) :
    (progress.addAll listings).notices.filter (fun notice => !notice.isAboutRecord) =
      (takeCompartments progress.claims
        (keptCompartments roster progress.seen listings)).notices := by
  induction listings generalizing progress with
  | nil => rfl
  | cons listing rest ih =>
    rw [addAll, Noted.notices_bind, List.filter_append, keptCompartments, firstsAfter]
    by_cases hseen : listing.id ∈ progress.seen
    · rw [add_of_seen hseen, if_pos hseen]
      exact ih progress hroster
    · rw [if_neg hseen, List.filterMap_cons]
      cases hplace : listing.placed? roster with
      | none =>
        -- the one notice is about a dropped record
        rw [add_of_orphan hroster hseen hplace]
        exact ih { progress with seen := listing.id :: progress.seen } hroster
      | some placed =>
        rcases placed with ⟨place, raw⟩
        have hadd := add_of_placed h hroster hseen hplace
        have hrest := ih (progress.add listing).value (by rw [hadd])
        have hnone : (Compartment.ofReported place progress.claims raw).notices.filter
            (fun notice => !notice.isAboutRecord) =
              (Compartment.ofReported place progress.claims raw).notices := by
          have hrecords := (Compartment.filter_ofReported place progress.claims raw).2
          rw [List.filter_eq_self]
          intro notice hmem
          rw [Bool.not_eq_true']
          exact Bool.eq_false_iff.mpr (List.filter_eq_nil_iff.mp hrecords notice hmem)
        rw [hadd] at hrest ⊢
        rw [hrest, hnone]
        simp only [takeCompartments, takeRecords, Noted.notices_bind, Noted.notices_pure,
          List.append_nil, keptCompartments]

end Progress

/-! ## Batches -/

/-- What becomes of the records of a batch, as its places and compartments, the owners of games and
the notices tell it. -/
structure Disposal (places : List Reported.Place) (beside : List Reported.Compartment)
    (claims : Claims) (outcome : Noted (Batch × Claims)) : Prop where
  /-- Of the records of a place the first is kept. It holds the compartments that name it. -/
  places_eq : outcome.value.1.places =
    (firstsAfter Reported.Place.id [] places).map fun raw =>
      (Place.ofReported raw).value.holding outcome.value.1.compartments
  /-- A compartment goes to a place of the batch. -/
  destination_iff : ∀ listing : Listing, (listing.destination? places).isSome ↔
    ∃ id ∈ outcome.value.1.places.map Place.id, listing.placeId = some id
  /-- Of the records of a compartment, inside places and then beside them, the first is kept if it
  goes to a place. The kept ones are taken in one after the other, and no other record gives a game
  to an owner. -/
  taken_eq : (outcome.value.1.compartments, outcome.value.2) =
    (takeCompartments claims (placedRecords places beside)).value
  /-- Every further record of a place leaves one notice, and then every first record of a
  compartment that goes to no place. -/
  dropped_eq : outcome.notices.filter Notice.isAboutRecord =
    ((latersAfter Reported.Place.id [] places).map fun raw => .duplicateLocation raw.id) ++
      ((firstsAfter Listing.id [] (listings places beside)).filter fun listing =>
        (listing.destination? places).isNone).map fun listing =>
          .orphan listing.id listing.raw.placeId
  /-- The other notices are what the kept records bring. -/
  others_eq : outcome.notices.filter (fun notice => !notice.isAboutRecord) =
    ((firstsAfter Reported.Place.id [] places).flatMap fun raw => (Place.ofReported raw).notices) ++
      (takeCompartments claims (placedRecords places beside)).notices
  /-- Without the further records of compartments all is the same. -/
  laters_unheard : takePlaces (places.map Reported.Place.emptied)
    ((firstsAfter Listing.id [] (listings places beside)).map fun listing => listing.standalone.raw)
    claims = outcome

section

variable (places : List Reported.Place) (beside : List Reported.Compartment) (claims : Claims)

/-- Apart from those about further records, the notices of the places are what the first ones
bring. -/
theorem others_rosterOf :
    (Roster.empty.addAll places).notices.filter (fun notice => !notice.isAboutRecord) =
      (firstsAfter Reported.Place.id [] places).flatMap fun raw =>
        (Place.ofReported raw).notices := by
  have htags := Roster.tagNotices_addAll Roster.wellIndexed_empty places
  have hgames := Roster.gameNotices_addAll Roster.empty places
  rw [gameNotices, List.filter_eq_nil_iff] at hgames
  -- a notice of a place is about a record or about a tag
  have hkinds : ∀ notice ∈ (Roster.empty.addAll places).notices,
      (!notice.isAboutRecord) = notice.isAboutTag := by
    intro notice hmem
    cases notice with
    | unknownTag field raw fallback => rfl
    | orphan compartment place => rfl
    | duplicateLocation id => rfl
    | duplicateGame game keptUnder droppedUnder => exact absurd rfl (hgames _ hmem)
  rw [List.filter_congr hkinds]
  exact htags

/-- The listings of a batch whose compartments are all beside its places. -/
theorem listings_emptied (firsts : List Listing) :
    listings (places.map Reported.Place.emptied)
        (firsts.map fun listing => listing.standalone.raw) =
      firsts.map Listing.standalone := by
  have hempty : (places.map Reported.Place.emptied).flatMap
      (fun place => place.compartments.map fun raw => (⟨raw, some place.id⟩ : Listing)) = [] := by
    rw [List.flatMap_map]
    exact List.flatMap_eq_nil_iff.mpr fun _ _ => rfl
  rw [listings, hempty, List.nil_append, List.map_map]
  rfl

/-- A batch comes to the same with the first records of its compartments only. -/
theorem takePlaces_firsts :
    takePlaces (places.map Reported.Place.emptied)
        ((firstsAfter Listing.id [] (listings places beside)).map fun listing =>
          listing.standalone.raw)
        claims =
      takePlaces places beside claims := by
  have hstandalone := Progress.addAll_standalone (rosterOf_wellIndexed places)
    { roster := rosterOf places, seen := [], compartments := [], claims }
    (rosterOf_holding_nil places).symm (firstsAfter Listing.id [] (listings places beside)) (by
      intro listing hfirst id hnested
      exact nestedUnder_mem_ids ((firstsAfter_sublist _ _ _).subset hfirst) hnested)
  have hfirsts := Progress.addAll_firstsAfter
    { roster := rosterOf places, seen := [], compartments := [], claims } (listings places beside)
  rw [takePlaces, takePlaces, Roster.addAll_emptied, listings_emptied]
  simp only [bind, Noted.andThen]
  rw [← rosterOf, hstandalone, hfirsts]

/-- In every batch this becomes of the records. -/
theorem takePlaces_disposal :
    Disposal places beside claims (takePlaces places beside claims) := by
  rcases takePlaces_took places beside claims with ⟨hcompartments, -, hclaims, -⟩
  constructor
  case places_eq =>
    rw [takePlaces_places, rosterOf, Roster.empty_addAll_places, List.map_map]
    rfl
  case destination_iff =>
    intro listing
    have hids : ∀ id, id ∈ (takePlaces places beside claims).value.1.places.map Place.id ↔
        id ∈ places.map Reported.Place.id := by
      intro id
      rw [takePlaces_places, List.map_map]
      exact mem_rosterOf_ids
    simp only [Listing.isSome_destination?, hids]
  case taken_eq =>
    rw [← keptIn_eq_placedRecords]
    exact Prod.ext hcompartments hclaims
  case dropped_eq =>
    rw [takePlaces_recordNotices]
    simp only [Listing.placed?_rosterOf, Option.isNone_map]
  case others_eq =>
    rw [← keptIn_eq_placedRecords, takePlaces_notices, List.filter_append, others_rosterOf]
    rw [Progress.others_addAll (rosterOf_wellIndexed places) _ (rosterOf_holding_nil places).symm]
    rfl
  case laters_unheard => exact takePlaces_firsts places beside claims

end

/-- A compartment in a further record of its place is kept, and its copy beside the places is passed
over, but one that names no place of the batch is dropped. -/
example :
    let shelf (id : String) (placeId : Option String) : Reported.Compartment :=
      ⟨id, "Shelf", none, placeId, none, none, some 3, none, none, none⟩
    let attic (inside : List Reported.Compartment) : Reported.Place :=
      ⟨"attic", "Attic", none, none, none, inside, none, none⟩
    let outcome := takePlaces [attic [], attic [shelf "s" none]]
      [shelf "s" (some "attic"), shelf "t" (some "shed")] .none
    outcome.value.1.compartments.map Compartment.id = ["s"] ∧
      outcome.notices = [.duplicateLocation "attic", .orphan "t" (some "shed")] := by
  decide

end GameShelf
