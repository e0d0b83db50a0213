import GameShelf.Proofs.Intake.Disposal

/-!
# Compartments that are lost

A compartment may come in several records, which may say different places of it. Its first record
decides: if that one goes to no place of the batch, the compartment is dropped with a notice, and
the others are passed over even if they go to a place.

* `Listing.Resolves`: the record goes to a place of the batch.
* `Decided`: what becomes of a compartment by its first record.
* `LosesNone`: every compartment with a record that resolves is in the batch.
* `takePlaces_losesNone_iff`: the first records decide, so that nothing is lost exactly if they
  resolve wherever another record does.
* `staleShelf_lost`: a compartment whose first record is out of date.
-/

namespace GameShelf

/-- A record resolves if the place that it names, or else the one in whose record it is, is in the
batch. -/
def Listing.Resolves (places : List Reported.Place) (listing : Listing) : Prop :=
  ∃ id ∈ places.map Reported.Place.id, listing.placeId = some id

/-- Whether a notice says that a compartment is dropped. -/
def Notice.isOrphan (id : String) : Notice → Bool
  | .orphan compartment _ => compartment == id
  | _ => false

/-- What becomes of a compartment with this first record. -/
structure Decided (places : List Reported.Place) (outcome : Noted (Batch × Claims))
    (first : Listing) : Prop where
  kept : first.Resolves places →
    (outcome.value.1.compartments.map Compartment.id).count first.id = 1 ∧
      outcome.notices.filter (Notice.isOrphan first.id) = []
  dropped : ¬ first.Resolves places →
    first.id ∉ outcome.value.1.compartments.map Compartment.id ∧
      outcome.notices.filter (Notice.isOrphan first.id) = [.orphan first.id first.raw.placeId]

/-- No compartment is lost. -/
structure LosesNone (places : List Reported.Place) (beside : List Reported.Compartment)
    (outcome : Noted (Batch × Claims)) : Prop where
  /-- One with a record that resolves is in the batch exactly once. -/
  kept : ∀ listing ∈ listings places beside, listing.Resolves places →
    (outcome.value.1.compartments.map Compartment.id).count listing.id = 1
  /-- One that is not in the batch has no such record, and a notice says that it is dropped. -/
  dropped : ∀ listing ∈ listings places beside,
    listing.id ∉ outcome.value.1.compartments.map Compartment.id →
      (∀ other ∈ listings places beside, other.id = listing.id → ¬ other.Resolves places) ∧
        ∃ place, .orphan listing.id place ∈ outcome.notices

/-! ## First records -/

section

variable {places : List Reported.Place} {beside : List Reported.Compartment}

/-- A compartment has one first record. -/
theorem eq_of_mem_firstsAfter {first other : Listing}
    (hfirst : first ∈ firstsAfter Listing.id [] (listings places beside))
    (hother : other ∈ firstsAfter Listing.id [] (listings places beside))
    (hid : other.id = first.id) : other = first :=
  List.inj_on_of_nodup_map (nodup_firstsAfter Listing.id [] (listings places beside)) hother hfirst
    hid

theorem exists_first {listing : Listing} (h : listing ∈ listings places beside) :
    ∃ first ∈ firstsAfter Listing.id [] (listings places beside), first.id = listing.id :=
  exists_mem_firstsAfter List.not_mem_nil (List.mem_map_of_mem h)

/-- The compartments of a batch are those of the placed records. -/
theorem takePlaces_placed_ids (places : List Reported.Place) (beside : List Reported.Compartment)
    (claims : Claims) :
    (takePlaces places beside claims).value.1.compartments.map Compartment.id =
      (placedRecords places beside).map fun record => record.2.id := by
  have hids := congrArg (List.map Prod.snd) (takePlaces_compartment_ids places beside claims)
  rw [List.map_map, List.map_map, keptIn_eq_placedRecords] at hids
  exact hids

/-- So they are those whose first records resolve. -/
theorem mem_takePlaces_compartment_ids (claims : Claims) {first : Listing}
    (hfirst : first ∈ firstsAfter Listing.id [] (listings places beside)) :
    first.id ∈ (takePlaces places beside claims).value.1.compartments.map Compartment.id ↔
      first.Resolves places := by
  have hgoes := Listing.isSome_destination? places first
  rw [takePlaces_placed_ids, List.mem_map]
  constructor
  · rintro ⟨record, hrecord, hid⟩
    rcases List.mem_filterMap.mp hrecord with ⟨other, hother, hplaced⟩
    rcases Option.map_eq_some_iff.mp hplaced with ⟨place, hplace, rfl⟩
    obtain rfl := eq_of_mem_firstsAfter hfirst hother hid
    exact hgoes.mp (Option.isSome_of_eq_some hplace)
  · intro hresolves
    rcases Option.isSome_iff_exists.mp (hgoes.mpr hresolves) with ⟨place, hplace⟩
    refine ⟨(place, first.raw), List.mem_filterMap.mpr ⟨first, hfirst, ?_⟩, rfl⟩
    rw [hplace]
    rfl

/-- The notices that a compartment is dropped are those of its first record, if that goes to no
place. -/
theorem filter_isOrphan_takePlaces (claims : Claims) {first : Listing}
    (hfirst : first ∈ firstsAfter Listing.id [] (listings places beside)) :
    (takePlaces places beside claims).notices.filter (Notice.isOrphan first.id) =
      if (first.destination? places).isSome then [] else [.orphan first.id first.raw.placeId] := by
  -- such a notice is about a dropped record, but not about one of a place
  have hrecord : ∀ notice : Notice,
      (notice.isOrphan first.id && notice.isAboutRecord) = notice.isOrphan first.id := by
    intro notice
    cases notice with
    | orphan compartment place => exact Bool.and_true _
    | unknownTag | duplicateLocation | duplicateGame => rfl
  have hplaces : (((latersAfter Reported.Place.id [] places).map fun raw =>
      Notice.duplicateLocation raw.id).filter (Notice.isOrphan first.id)) = [] := by
    rw [List.filter_map]
    exact List.map_eq_nil_iff.mpr (List.filter_eq_nil_iff.mpr fun _ _ => Bool.false_ne_true)
  have honly := filter_key_eq_singleton Listing.id
    (nodup_firstsAfter Listing.id [] (listings places beside)) hfirst
  have hdropped := takePlaces_recordNotices places beside claims
  simp only [Listing.placed?_rosterOf, Option.isNone_map] at hdropped
  calc (takePlaces places beside claims).notices.filter (Notice.isOrphan first.id)
      = ((takePlaces places beside claims).notices.filter Notice.isAboutRecord).filter
          (Notice.isOrphan first.id) := by
        rw [List.filter_filter]
        simp only [hrecord]
    _ = (((firstsAfter Listing.id [] (listings places beside)).filter fun listing =>
          (listing.destination? places).isNone).filter fun listing =>
            listing.id == first.id).map fun listing => .orphan listing.id listing.raw.placeId := by
        rw [hdropped, List.filter_append, hplaces, List.nil_append, List.filter_map]
        rfl
    _ = ([first].filter fun listing => (listing.destination? places).isNone).map fun listing =>
          .orphan listing.id listing.raw.placeId := by
        rw [List.filter_comm, honly]
    _ = if (first.destination? places).isSome then []
          else [.orphan first.id first.raw.placeId] := by
        rw [List.filter_singleton]
        cases first.destination? places with
        | none => rfl
        | some place => rfl

/-- The first record decides what becomes of a compartment. -/
theorem takePlaces_decided (claims : Claims) {first : Listing}
    (hfirst : first ∈ firstsAfter Listing.id [] (listings places beside)) :
    Decided places (takePlaces places beside claims) first := by
  have hmem := mem_takePlaces_compartment_ids claims hfirst
  have hnotices := filter_isOrphan_takePlaces claims hfirst
  constructor
  case kept =>
    intro hresolves
    refine ⟨List.count_eq_one_of_mem ?_ (hmem.mpr hresolves), ?_⟩
    · exact nodup_takePlaces_compartment_ids places beside claims
    · rw [hnotices, if_pos ((Listing.isSome_destination? places first).mpr hresolves)]
  case dropped =>
    intro hlost
    refine ⟨mt hmem.mp hlost, ?_⟩
    rw [hnotices, if_neg (mt (Listing.isSome_destination? places first).mp hlost)]

end

/-! ## Batches -/

/-- In every batch the first record of a compartment decides what becomes of it. So nothing is lost
exactly if the first record of a compartment resolves wherever another one of it does. -/
theorem takePlaces_losesNone_iff (places : List Reported.Place)
    (beside : List Reported.Compartment) (claims : Claims) :
    let outcome := takePlaces places beside claims
    let firsts := firstsAfter Listing.id [] (listings places beside)
    (∀ first ∈ firsts, Decided places outcome first) ∧
      (LosesNone places beside outcome ↔
        ∀ first ∈ firsts, ∀ other ∈ listings places beside, other.id = first.id →
          other.Resolves places → first.Resolves places) := by
  intro outcome firsts
  have hdecided : ∀ first ∈ firsts, Decided places outcome first :=
    fun first hfirst => takePlaces_decided claims hfirst
  refine ⟨hdecided, ?_, ?_⟩
  · intro hnone first hfirst other hother hid hresolves
    have hcount := hnone.kept other hother hresolves
    rw [hid] at hcount
    refine (mem_takePlaces_compartment_ids claims hfirst).mp ?_
    exact List.count_pos_iff.mp (hcount ▸ Nat.one_pos)
  · intro hresolve
    constructor
    case kept =>
      intro listing hlisting hresolves
      rcases exists_first hlisting with ⟨first, hfirst, hid⟩
      rw [← hid]
      exact ((hdecided first hfirst).kept
        (hresolve first hfirst listing hlisting hid.symm hresolves)).1
    case dropped =>
      intro listing hlisting hmissing
      rcases exists_first hlisting with ⟨first, hfirst, hid⟩
      rw [← hid] at hmissing ⊢
      have hlost : ¬ first.Resolves places :=
        mt (mem_takePlaces_compartment_ids claims hfirst).mpr hmissing
      constructor
      · intro other hother hsame hresolves
        exact hlost (hresolve first hfirst other hother hsame hresolves)
      · have hnotice : Notice.orphan first.id first.raw.placeId ∈
            outcome.notices.filter (Notice.isOrphan first.id) := by
          rw [((hdecided first hfirst).dropped hlost).2]
          exact List.mem_singleton_self _
        exact ⟨first.raw.placeId, List.mem_of_mem_filter hnotice⟩

/-- A shelf whose first record names a place that is not there is lost, although its second record
names one that is. -/
theorem staleShelf_lost :
    let home : Reported.Place := ⟨"p1", "Home", none, none, none, [], none, none⟩
    let shelf (placeId : String) : Reported.Compartment :=
      ⟨"s1", "Shelf A", none, some placeId, none, none, none, none, none, none⟩
    ¬ LosesNone [home] [shelf "p9", shelf "p1"]
      (takePlaces [home] [shelf "p9", shelf "p1"] .none) := by
  intro home shelf hnone
  have hresolves : (⟨shelf "p1", none⟩ : Listing).Resolves [home] :=
    ⟨"p1", List.mem_singleton_self _, rfl⟩
  have hlisted : (⟨shelf "p1", none⟩ : Listing) ∈ listings [home] [shelf "p9", shelf "p1"] :=
    List.mem_cons_of_mem _ (List.mem_singleton_self _)
  have hcount := hnone.kept _ hlisted hresolves
  have hmissing : (takePlaces [home] [shelf "p9", shelf "p1"] .none).value.1.compartments = [] := by
    decide
  rw [hmissing] at hcount
  exact absurd hcount Nat.zero_ne_one

end GameShelf
