import GameShelf.Proofs.Intake.Mention
import GameShelf.Proofs.Intake.Roster

/-!
# Compartments of a batch

The compartments of a batch are taken in while the places hold more and more of them. What comes
out does not depend on that: the first listing of each identifier is kept if its place is in the
batch, and the kept records are taken in one after the other.

* `keptCompartments`, `takeCompartments`: the kept records, each with its place, and what becomes
  of them.
* `Progress.addAll_took`: a run over listings takes in exactly the kept ones, and every place
  holds those that name it.
* `takePlaces_took`: the same for a whole batch.
-/

namespace GameShelf

/-! ## Places -/

theorem Place.gameNotices_ofReported (raw : Reported.Place) :
    gameNotices (Place.ofReported raw).notices = [] := by
  simp [Place.ofReported]

theorem Roster.gameNotices_addAll (roster : Roster) (raws : List Reported.Place) :
    gameNotices (roster.addAll raws).notices = [] := by
  induction raws generalizing roster with
  | nil => rfl
  | cons raw rest ih =>
    have hadd : gameNotices (roster.add raw).notices = [] := by
      unfold Roster.add
      split
      · rfl
      · simp [Place.gameNotices_ofReported]
    simp [addAll, hadd, ih]

/-! ## Kept records -/

/-- The identifier of the compartment that is listed. -/
def Listing.id (listing : Listing) : String :=
  listing.raw.id

/-- The record of a listing with its place, if that is in the batch. -/
def Listing.placed? (roster : Roster) (listing : Listing) :
    Option (Place × Reported.Compartment) :=
  (listing.placeId.bind roster.find?).map fun found => (found.2, listing.raw)

/-- The records that are kept, each with its place: the first of each identifier that was not
met before, if its place is in the batch. -/
def keptCompartments (roster : Roster) (seen : List String) (listings : List Listing) :
    List (Place × Reported.Compartment) :=
  (firstsAfter Listing.id seen listings).filterMap (Listing.placed? roster)

/-- Takes in kept records from first to last. -/
def takeCompartments (claims : Claims) (kept : List (Place × Reported.Compartment)) :
    Noted (List Compartment × Claims) :=
  takeRecords (fun claims record => Compartment.ofReported record.1 claims record.2) claims kept

/-- What a place holds does not show in its compartments. -/
theorem Compartment.ofReported_holding (compartments : List Compartment) (place : Place)
    (claims : Claims) (raw : Reported.Compartment) :
    Compartment.ofReported (place.holding compartments) claims raw =
      Compartment.ofReported place claims raw := rfl

theorem Compartment.ofReported_placeId (place : Place) (claims : Claims)
    (raw : Reported.Compartment) :
    (Compartment.ofReported place claims raw).value.1.placeId = place.id := rfl

theorem Compartment.ofReported_id (place : Place) (claims : Claims)
    (raw : Reported.Compartment) :
    (Compartment.ofReported place claims raw).value.1.id = raw.id := rfl

/-- A compartment takes in the games that its record mentions. -/
theorem Compartment.takesMentions :
    TakesMentions
      (fun claims (record : Place × Reported.Compartment) =>
        Compartment.ofReported record.1 claims record.2)
      (fun record => Mention.ofList (.compartment record.1.id record.2.id) (record.2.games.getD []))
      Compartment.games := by
  intro claims record
  rcases record with ⟨place, raw⟩
  have hgames := claimGames_takesMentions (.compartment place.id raw.id) claims
  simp only [Compartment.ofReported, compartmentGames]
  cases raw.games with
  | none => simp [Mention.ofList, takeMentions]
  | some list =>
    rcases hgames list with ⟨hlist, hclaims, hnotices⟩
    simp [hclaims, hnotices]
    exact hlist

/-- A compartment holds its games as their owner. -/
theorem Compartment.owner_ofReported (place : Place) (claims : Claims)
    (raw : Reported.Compartment) :
    ∀ game ∈ (Compartment.ofReported place claims raw).value.1.games,
      game.owner = .compartment place.id raw.id := by
  intro game hgame
  have htakes := (Compartment.takesMentions claims (place, raw)).1
  rw [htakes] at hgame
  exact owner_of_mem_takeMentions hgame

/-! ## The run over listings -/

namespace Progress

/-- What a run over listings makes of a progress: the compartments and claims that the kept
records bring, with every place of the roster holding those that name it. -/
structure Took (roster : Roster) (kept : List (Place × Reported.Compartment))
    (before : Progress) (after : Noted Progress) : Prop where
  roster_eq : after.value.roster = roster.holding after.value.compartments
  compartments_eq : after.value.compartments =
    before.compartments ++ (takeCompartments before.claims kept).value.1
  claims_eq : after.value.claims = (takeCompartments before.claims kept).value.2
  notices_eq : gameNotices after.notices =
    gameNotices (takeCompartments before.claims kept).notices

theorem add_of_seen {progress : Progress} {listing : Listing}
    (h : listing.id ∈ progress.seen) : progress.add listing = ⟨progress, []⟩ := by
  unfold add
  exact if_pos h

theorem find?_of_holding {roster : Roster} {progress : Progress}
    (hroster : progress.roster = roster.holding progress.compartments) (id : Option String) :
    id.bind progress.roster.find? =
      (id.bind roster.find?).map fun found =>
        (found.1, found.2.holding progress.compartments) := by
  rw [hroster]
  cases id with
  | none => rfl
  | some id => exact Roster.holding_find? ..

theorem add_of_orphan {roster : Roster} {progress : Progress} {listing : Listing}
    (hroster : progress.roster = roster.holding progress.compartments)
    (hseen : listing.id ∉ progress.seen) (hplace : listing.placed? roster = none) :
    progress.add listing =
      ⟨{ progress with seen := listing.id :: progress.seen },
        [.orphan listing.id listing.raw.placeId]⟩ := by
  have hfind : listing.placeId.bind progress.roster.find? = none := by
    rw [find?_of_holding hroster, Option.map_eq_none_iff]
    exact Option.map_eq_none_iff.mp hplace
  unfold add
  rw [if_neg (show listing.raw.id ∉ progress.seen from hseen)]
  simp only [hfind]
  rfl

theorem add_of_placed {roster : Roster} (h : roster.WellIndexed) {progress : Progress}
    {listing : Listing} (hroster : progress.roster = roster.holding progress.compartments)
    (hseen : listing.id ∉ progress.seen) {place : Place} {raw : Reported.Compartment}
    (hplace : listing.placed? roster = some (place, raw)) :
    progress.add listing =
      ⟨{ roster := roster.holding
           (progress.compartments ++ [(Compartment.ofReported place progress.claims raw).value.1])
         seen := listing.id :: progress.seen
         compartments :=
           progress.compartments ++ [(Compartment.ofReported place progress.claims raw).value.1]
         claims := (Compartment.ofReported place progress.claims raw).value.2 },
       (Compartment.ofReported place progress.claims raw).notices⟩ := by
  rcases Option.map_eq_some_iff.mp hplace with ⟨⟨slot, found⟩, hfound, hpair⟩
  rcases Prod.mk.inj hpair with ⟨rfl, rfl⟩
  rcases Option.bind_eq_some_iff.mp hfound with ⟨id, -, hid⟩
  have hstands := (h.find?_eq_some.mp hid).1
  have hfind : listing.placeId.bind progress.roster.find? =
      some (slot, found.holding progress.compartments) := by
    rw [find?_of_holding hroster, hfound]
    rfl
  have hattach := Roster.attach_holding h hstands progress.compartments
    (Compartment.ofReported_placeId found progress.claims listing.raw)
  rw [← hroster] at hattach
  unfold add
  rw [if_neg (show listing.raw.id ∉ progress.seen from hseen)]
  simp only [hfind, Compartment.ofReported_holding]
  simp only [bind, pure, Noted.andThen, Noted.plain, List.append_nil, hattach]
  rfl

/-- A run over listings takes in the kept ones. -/
theorem addAll_took {roster : Roster} (h : roster.WellIndexed) (progress : Progress)
    (hroster : progress.roster = roster.holding progress.compartments)
    (listings : List Listing) :
    Took roster (keptCompartments roster progress.seen listings) progress
      (progress.addAll listings) := by
  induction listings generalizing progress with
  | nil =>
    exact ⟨hroster, (List.append_nil _).symm, rfl, rfl⟩
  | cons listing rest ih =>
    by_cases hseen : listing.id ∈ progress.seen
    · -- a record met before changes nothing
      have hkept : keptCompartments roster progress.seen (listing :: rest) =
          keptCompartments roster progress.seen rest := by
        simp [keptCompartments, firstsAfter, hseen]
      rw [hkept, addAll, add_of_seen hseen]
      exact ih progress hroster
    · have hkept : keptCompartments roster progress.seen (listing :: rest) =
          (listing.placed? roster).toList ++
            keptCompartments roster (listing.id :: progress.seen) rest := by
        simp only [keptCompartments, firstsAfter, if_neg hseen, List.filterMap_cons]
        cases listing.placed? roster <;> rfl
      cases hplace : listing.placed? roster with
      | none =>
        -- its place is not there: only the identifier is remembered
        have hrest := ih { progress with seen := listing.id :: progress.seen } hroster
        rw [hkept, hplace, addAll, add_of_orphan hroster hseen hplace]
        exact ⟨hrest.roster_eq, hrest.compartments_eq, hrest.claims_eq, by
          simpa using hrest.notices_eq⟩
      | some placed =>
        -- it goes to its place, and the places hold one compartment more
        rcases placed with ⟨place, raw⟩
        have hadd := add_of_placed h hroster hseen hplace
        have hrest := ih (progress.add listing).value (by rw [hadd])
        rw [hkept, hplace, addAll]
        rw [hadd] at hrest ⊢
        refine ⟨hrest.roster_eq, ?_, hrest.claims_eq, ?_⟩
        · rw [Noted.value_bind, hrest.compartments_eq]
          simp [takeCompartments, takeRecords]
        · rw [Noted.notices_bind, gameNotices_append, hrest.notices_eq]
          simp [takeCompartments, takeRecords]

end Progress

/-! ## Whole batches -/

/-- The places of a batch before any compartment is taken in. -/
def rosterOf (places : List Reported.Place) : Roster :=
  (Roster.empty.addAll places).value

theorem rosterOf_wellIndexed (places : List Reported.Place) : (rosterOf places).WellIndexed :=
  Roster.wellIndexed_empty.addAll places

/-- The records of compartments that a batch keeps, each with its place. -/
def keptIn (places : List Reported.Place) (beside : List Reported.Compartment) :
    List (Place × Reported.Compartment) :=
  keptCompartments (rosterOf places) [] (listings places beside)

theorem rosterOf_holding_nil (places : List Reported.Place) :
    (rosterOf places).holding [] = rosterOf places := by
  have hempty : ∀ place ∈ (rosterOf places).places, place.holding [] = place := by
    intro place hplace
    rw [rosterOf, Roster.empty_addAll_places] at hplace
    rcases List.mem_map.mp hplace with ⟨raw, -, rfl⟩
    rfl
  unfold Roster.holding
  rw [List.map_congr_left hempty, List.map_id']

/-- A batch has the kept compartments, and every place holds those that name it. -/
theorem takePlaces_took (places : List Reported.Place) (beside : List Reported.Compartment)
    (claims : Claims) :
    let taken := takeCompartments claims (keptIn places beside)
    let batch := takePlaces places beside claims
    batch.value.1.compartments = taken.value.1 ∧
      batch.value.1.places = (rosterOf places).places.map (Place.holding taken.value.1) ∧
      batch.value.2 = taken.value.2 ∧
      gameNotices batch.notices = gameNotices taken.notices := by
  intro taken batch
  have htook := Progress.addAll_took (rosterOf_wellIndexed places)
    { roster := rosterOf places, seen := [], compartments := [], claims }
    (rosterOf_holding_nil places).symm (listings places beside)
  have hcompartments : batch.value.1.compartments = taken.value.1 := htook.compartments_eq
  refine ⟨hcompartments, ?_, htook.claims_eq, ?_⟩
  · have hroster : batch.value.1.places =
        ((rosterOf places).holding batch.value.1.compartments).places :=
      congrArg Roster.places htook.roster_eq
    rw [hroster, hcompartments]
    rfl
  · have hnotices : gameNotices batch.notices =
        gameNotices (Progress.addAll
          { roster := rosterOf places, seen := [], compartments := [], claims }
          (listings places beside)).notices := by
      simp [batch, takePlaces, Roster.gameNotices_addAll, rosterOf]
    rw [hnotices, htook.notices_eq]
    rfl

theorem mem_rosterOf_ids {places : List Reported.Place} {id : String} :
    id ∈ (rosterOf places).ids ↔ id ∈ places.map Reported.Place.id := by
  unfold Roster.ids
  rw [rosterOf, Roster.empty_addAll_places, List.map_map]
  constructor
  · intro h
    rcases List.mem_map.mp h with ⟨raw, hraw, rfl⟩
    exact List.mem_map_of_mem ((firstsAfter_sublist _ _ _).subset hraw)
  · intro h
    rcases exists_mem_firstsAfter List.not_mem_nil h with ⟨raw, hraw, rfl⟩
    exact List.mem_map_of_mem hraw

/-- The records that a batch keeps are told by the identifiers alone: the first listing of each
compartment, if the place that it names or is nested under has a record. -/
theorem keptIn_ids (places : List Reported.Place) (beside : List Reported.Compartment) :
    (keptIn places beside).map (fun record => (record.1.id, record.2)) =
      (firstsAfter Listing.id [] (listings places beside)).filterMap fun listing =>
        (listing.placeId.filter fun id => id ∈ places.map Reported.Place.id).map fun id =>
          (id, listing.raw) := by
  unfold keptIn keptCompartments
  rw [List.map_filterMap]
  apply List.filterMap_congr
  intro listing _
  unfold Listing.placed?
  cases listing.placeId with
  | none => rfl
  | some id =>
    rw [Option.bind_some, Option.map_map]
    have hindexed := rosterOf_wellIndexed places
    by_cases hmem : id ∈ (rosterOf places).ids
    · rcases hindexed.find?_of_mem hmem with ⟨slot, place, hfind, hid⟩
      rw [mem_rosterOf_ids] at hmem
      simp only [hfind, Option.map_some, Function.comp, hid, Option.filter_some, hmem,
        decide_true, if_true]
    · have hfind := hindexed.find?_of_notMem hmem
      rw [mem_rosterOf_ids] at hmem
      simp only [hfind, Option.map_none, Option.filter_some, hmem, decide_false,
        Bool.false_eq_true, if_false]

theorem nodup_rosterOf_ids (places : List Reported.Place) : (rosterOf places).ids.Nodup := by
  unfold Roster.ids
  rw [rosterOf, Roster.empty_addAll_places, List.map_map]
  exact nodup_firstsAfter Reported.Place.id [] places

/-- Where every listing names a place of the roster, all of them are placed there. -/
theorem forall₂_placed {roster : Roster} (h : roster.WellIndexed) {listings : List Listing}
    (hplaced : ∀ listing ∈ listings, ∃ id ∈ roster.ids, listing.placeId = some id) :
    List.Forall₂ (fun listing record => record.2 = listing.raw ∧
        listing.placeId = some record.1.id) listings
      (listings.filterMap (Listing.placed? roster)) := by
  induction listings with
  | nil => exact List.Forall₂.nil
  | cons listing rest ih =>
    rcases List.forall_mem_cons.mp hplaced with ⟨⟨id, hid, hplaceId⟩, hrest⟩
    rcases h.find?_of_mem hid with ⟨slot, place, hfind, hsame⟩
    have hlisting : listing.placed? roster = some (place, listing.raw) := by
      rw [Listing.placed?, hplaceId, Option.bind_some, hfind]
      rfl
    rw [List.filterMap_cons, hlisting]
    exact List.Forall₂.cons ⟨rfl, by rw [hplaceId, hsame]⟩ (ih hrest)

/-- Where all listings have different identifiers, those that are placed are kept. -/
theorem keptIn_eq {places : List Reported.Place} {beside : List Reported.Compartment}
    (h : ((listings places beside).map Listing.id).Nodup) :
    keptIn places beside =
      (listings places beside).filterMap (Listing.placed? (rosterOf places)) := by
  rw [keptIn, keptCompartments, firstsAfter_eq_self h fun _ _ => List.not_mem_nil]

/-- A kept record is that of a listing. -/
theorem exists_listing_of_mem_keptIn {places : List Reported.Place}
    {beside : List Reported.Compartment} {record : Place × Reported.Compartment}
    (h : record ∈ keptIn places beside) : ∃ listing ∈ listings places beside,
      record.2 = listing.raw := by
  rcases List.mem_filterMap.mp h with ⟨listing, hfirst, hplaced⟩
  rcases Option.map_eq_some_iff.mp hplaced with ⟨found, -, rfl⟩
  exact ⟨listing, (firstsAfter_sublist _ _ _).subset hfirst, rfl⟩

/-- A kept record has a place of the batch. -/
theorem mem_places_of_mem_keptIn {places : List Reported.Place}
    {beside : List Reported.Compartment} {record : Place × Reported.Compartment}
    (h : record ∈ keptIn places beside) : record.1 ∈ (rosterOf places).places := by
  rcases List.mem_filterMap.mp h with ⟨listing, -, hplaced⟩
  rcases Option.map_eq_some_iff.mp hplaced with ⟨⟨slot, place⟩, hfound, rfl⟩
  rcases Option.bind_eq_some_iff.mp hfound with ⟨id, -, hfind⟩
  have hget := ((rosterOf_wellIndexed places).find?_eq_some.mp hfind).1
  exact List.mem_of_getElem? hget

theorem mem_ids_of_mem_keptIn {places : List Reported.Place}
    {beside : List Reported.Compartment} {record : Place × Reported.Compartment}
    (h : record ∈ keptIn places beside) : record.1.id ∈ (rosterOf places).ids :=
  List.mem_map_of_mem (mem_places_of_mem_keptIn h)

/-- The compartments of a batch carry the identifiers of the kept records and their places. -/
theorem takePlaces_compartment_ids (places : List Reported.Place)
    (beside : List Reported.Compartment) (claims : Claims) :
    (takePlaces places beside claims).value.1.compartments.map (fun c => (c.placeId, c.id)) =
      (keptIn places beside).map fun record => (record.1.id, record.2.id) := by
  have hids : ∀ claims (record : Place × Reported.Compartment),
      (fun c => (c.placeId, c.id)) (Compartment.ofReported record.1 claims record.2).value.1 =
        (record.1.id, record.2.id) := fun _ _ => rfl
  rw [(takePlaces_took places beside claims).1]
  exact takeRecords_map hids claims (keptIn places beside)

/-- Every compartment of a batch is in a place of the batch. -/
theorem placeId_mem_ids {places : List Reported.Place} {beside : List Reported.Compartment}
    {claims : Claims} {compartment : Compartment}
    (h : compartment ∈ (takePlaces places beside claims).value.1.compartments) :
    compartment.placeId ∈ (rosterOf places).ids := by
  have hpair : (compartment.placeId, compartment.id) ∈
      (takePlaces places beside claims).value.1.compartments.map fun c => (c.placeId, c.id) :=
    List.mem_map_of_mem h
  rw [takePlaces_compartment_ids] at hpair
  rcases List.mem_map.mp hpair with ⟨record, hrecord, heq⟩
  rw [← (Prod.mk.inj heq).1]
  exact mem_ids_of_mem_keptIn hrecord

/-- The places of a batch are those of the first records, each with the compartments of the batch
that name it. -/
theorem takePlaces_places (places : List Reported.Place) (beside : List Reported.Compartment)
    (claims : Claims) :
    (takePlaces places beside claims).value.1.places =
      (rosterOf places).places.map
        (Place.holding (takePlaces places beside claims).value.1.compartments) := by
  rcases takePlaces_took places beside claims with ⟨hcompartments, hplaces, -, -⟩
  rw [hplaces, hcompartments]

/-- Place by place, the compartments of a batch are only reordered. -/
theorem takePlaces_flatMap_perm (places : List Reported.Place)
    (beside : List Reported.Compartment) (claims : Claims) :
    ((takePlaces places beside claims).value.1.places.flatMap Place.compartments).Perm
      (takePlaces places beside claims).value.1.compartments := by
  have hids : (takePlaces places beside claims).value.1.places.flatMap Place.compartments =
      (rosterOf places).ids.flatMap fun id =>
        (takePlaces places beside claims).value.1.compartments.filter fun c => c.placeId == id := by
    rw [takePlaces_places, List.flatMap_map, Roster.ids, List.flatMap_map]
    rfl
  rw [hids]
  exact perm_flatMap_filter Compartment.placeId (nodup_rosterOf_ids places)
    fun compartment hmem => placeId_mem_ids hmem

/-- A compartment of a batch comes of one of the listings. -/
theorem exists_listing_of_mem_takePlaces {places : List Reported.Place}
    {beside : List Reported.Compartment} {claims : Claims} {compartment : Compartment}
    (h : compartment ∈ (takePlaces places beside claims).value.1.compartments) :
    ∃ listing ∈ listings places beside, ∃ place before,
      compartment = (Compartment.ofReported place before listing.raw).value.1 := by
  rw [(takePlaces_took places beside claims).1] at h
  rcases exists_record_of_mem_takeRecords h with ⟨record, hrecord, before, rfl⟩
  rcases exists_listing_of_mem_keptIn hrecord with ⟨listing, hlisting, hraw⟩
  exact ⟨listing, hlisting, record.1, before, by rw [hraw]⟩

/-- A compartment of a batch is the owner of what it holds. -/
theorem takePlaces_compartment_owner {places : List Reported.Place}
    {beside : List Reported.Compartment} {claims : Claims} {compartment : Compartment}
    (h : compartment ∈ (takePlaces places beside claims).value.1.compartments)
    {game : Game} (hgame : game ∈ compartment.games) :
    game.owner = .compartment compartment.placeId compartment.id := by
  have howner : ∀ claims (record : Place × Reported.Compartment),
      ∀ game ∈ (Compartment.ofReported record.1 claims record.2).value.1.games,
        game.owner = .compartment
          (Compartment.ofReported record.1 claims record.2).value.1.placeId
          (Compartment.ofReported record.1 claims record.2).value.1.id :=
    fun claims record => Compartment.owner_ofReported record.1 claims record.2
  rw [(takePlaces_took places beside claims).1] at h
  exact forall_mem_takeRecords
    (fun c => ∀ game ∈ c.games, game.owner = .compartment c.placeId c.id)
    howner claims (keptIn places beside) compartment h game hgame

/-- A place of a batch holds the compartments that name it. -/
theorem takePlaces_inside {places : List Reported.Place} {beside : List Reported.Compartment}
    {claims : Claims} {place : Place}
    (h : place ∈ (takePlaces places beside claims).value.1.places) :
    place.compartments = (takePlaces places beside claims).value.1.compartments.filter
      fun c => c.placeId == place.id := by
  rw [takePlaces_places] at h
  rcases List.mem_map.mp h with ⟨base, -, rfl⟩
  rfl

/-- A place of a batch is the owner of what its compartments hold. -/
theorem takePlaces_owner {places : List Reported.Place} {beside : List Reported.Compartment}
    {claims : Claims} {place : Place}
    (hplace : place ∈ (takePlaces places beside claims).value.1.places)
    {compartment : Compartment} (hcompartment : compartment ∈ place.compartments)
    {game : Game} (hgame : game ∈ compartment.games) :
    game.owner = .compartment place.id compartment.id := by
  rw [takePlaces_inside hplace] at hcompartment
  rcases List.mem_filter.mp hcompartment with ⟨hmem, hid⟩
  rw [takePlaces_compartment_owner hmem hgame]
  exact congrArg (Owner.compartment · compartment.id) (beq_iff_eq.mp hid)

/-- The compartments of a place of a batch are those of the kept records with that place. -/
theorem takePlaces_place_compartments {places : List Reported.Place}
    {beside : List Reported.Compartment} {claims : Claims} {place : Place}
    (hplace : place ∈ (takePlaces places beside claims).value.1.places) :
    place.compartments.map Compartment.id =
      ((keptIn places beside).filter fun record => record.1.id == place.id).map
        fun record => record.2.id := by
  have hids := takePlaces_compartment_ids places beside claims
  rw [takePlaces_places] at hplace
  rcases List.mem_map.mp hplace with ⟨base, -, rfl⟩
  have hpairs := congrArg (fun pairs : List (String × String) =>
    (pairs.filter fun pair => pair.1 == base.id).map Prod.snd) hids
  simp only [List.filter_map, List.map_map] at hpairs
  exact hpairs

/-- The mentions of a kept record. -/
def mentionsOf (record : String × Reported.Compartment) : List Mention :=
  Mention.ofList (.compartment record.1 record.2.id) (record.2.games.getD [])

/-- A batch takes in the mentions under its kept records. -/
theorem takePlaces_mentions (places : List Reported.Place) (beside : List Reported.Compartment)
    (claims : Claims) :
    let batch := takePlaces places beside claims
    let taken := takeMentions claims
      (((keptIn places beside).map fun record => (record.1.id, record.2)).flatMap mentionsOf)
    batch.value.1.compartments.flatMap Compartment.games = taken.value.1 ∧
      batch.value.2 = taken.value.2 ∧ gameNotices batch.notices = taken.notices := by
  intro batch taken
  rcases takePlaces_took places beside claims with ⟨hcompartments, -, hclaims, hnotices⟩
  have htakes := Compartment.takesMentions.takeRecords claims (keptIn places beside)
  have hmentions : taken = takeMentions claims ((keptIn places beside).flatMap fun record =>
      Mention.ofList (.compartment record.1.id record.2.id) (record.2.games.getD [])) := by
    simp only [taken, List.flatMap_map]
    rfl
  rw [hmentions, hcompartments, hclaims, hnotices]
  exact htakes

end GameShelf
