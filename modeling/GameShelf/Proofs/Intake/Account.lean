import Mathlib.Data.List.Flatten
import GameShelf.Proofs.Intake.Batch
import GameShelf.Proofs.Intake.Storefronts

/-!
# The account of a payload

What is not taken in as it stood leaves a notice of one of three kinds: about a game, about a whole
record, or about a text that names no tag. A record that is not the first with its identifier leaves
one notice, and so does the first record of a compartment if its place is not there; the others are
about what is in the records that are kept.

* `Notice.isAboutRecord`, `Notice.isAboutTag`: the other two kinds.
* `takePlaces_recordNotices`, `takeStorefronts_recordNotices`: the records that are dropped, in
  order, each with its notice.
* `takePlaces_tagNotices`: what kept records say about tags.
* `isAboutTag_of_mem`, `notices_eq_nil`: there is nothing else to account for.
-/

namespace GameShelf

/-! ## Kinds of notices -/

/-- Whether a notice is about a record that is dropped. -/
def Notice.isAboutRecord : Notice → Bool
  | .orphan .. | .duplicateLocation _ => true
  | _ => false

/-- Whether a notice is about a text that names no tag. -/
def Notice.isAboutTag : Notice → Bool
  | .unknownTag .. => true
  | _ => false

/-- There are no other kinds. -/
theorem isAboutTag_of_mem {notices : List Notice} (hgames : gameNotices notices = [])
    (hrecords : notices.filter Notice.isAboutRecord = []) :
    ∀ notice ∈ notices, notice.isAboutTag = true := by
  rw [gameNotices] at hgames
  rw [List.filter_eq_nil_iff] at hgames hrecords
  intro notice hmem
  cases notice with
  | unknownTag field raw fallback => rfl
  | orphan compartment place => exact absurd rfl (hrecords _ hmem)
  | duplicateLocation id => exact absurd rfl (hrecords _ hmem)
  | duplicateGame game keptUnder droppedUnder => exact absurd rfl (hgames _ hmem)

theorem notices_eq_nil {notices : List Notice} (hgames : gameNotices notices = [])
    (hrecords : notices.filter Notice.isAboutRecord = [])
    (htags : notices.filter Notice.isAboutTag = []) : notices = [] := by
  rw [List.filter_eq_nil_iff] at htags
  rw [List.eq_nil_iff_forall_not_mem]
  intro notice hmem
  exact htags notice hmem (isAboutTag_of_mem hgames hrecords notice hmem)

/-! ## What records bring -/

theorem Tag.isAboutTag_take {α : Type} [Tag α] (fallback : α) (raw : Option String) :
    ∀ notice ∈ (Tag.take fallback raw).notices, notice.isAboutTag = true := by
  intro notice hmem
  unfold Tag.take at hmem
  split at hmem
  · exact absurd hmem List.not_mem_nil
  · split at hmem
    · exact absurd hmem List.not_mem_nil
    · rw [List.mem_singleton.mp hmem]
      rfl

theorem Tag.isAboutTag_takeOptional (α : Type) [Tag α] (raw : Option String) :
    ∀ notice ∈ (Tag.takeOptional α raw).notices, notice.isAboutTag = true := by
  intro notice hmem
  unfold Tag.takeOptional at hmem
  split at hmem
  · exact absurd hmem List.not_mem_nil
  · split at hmem
    · exact absurd hmem List.not_mem_nil
    · rw [List.mem_singleton.mp hmem]
      rfl

/-- Notices about tags are all that there is of their kind, and none of the other kind. -/
theorem filter_of_isAboutTag {notices : List Notice}
    (h : ∀ notice ∈ notices, notice.isAboutTag = true) :
    notices.filter Notice.isAboutTag = notices ∧ notices.filter Notice.isAboutRecord = [] := by
  refine ⟨List.filter_eq_self.mpr h, List.filter_eq_nil_iff.mpr fun notice hmem => ?_⟩
  have htag := h notice hmem
  cases notice with
  | unknownTag field raw fallback => exact Bool.false_ne_true
  | orphan compartment place => exact absurd htag Bool.false_ne_true
  | duplicateLocation id => exact absurd htag Bool.false_ne_true
  | duplicateGame game keptUnder droppedUnder => exact Bool.false_ne_true

/-- Notices about games are of neither kind. -/
theorem filter_claimGames (owner : Owner) (claims : Claims) (list : List Reported.Game) :
    (claimGames owner claims list).notices.filter Notice.isAboutTag = [] ∧
      (claimGames owner claims list).notices.filter Notice.isAboutRecord = [] := by
  induction list generalizing claims with
  | nil => exact ⟨rfl, rfl⟩
  | cons raw rest ih =>
    unfold claimGames
    cases claims.holder? raw.id with
    | some keptUnder => exact ih claims
    | none =>
      simp only [Noted.notices_bind, Noted.notices_pure, List.append_nil]
      exact ih _

theorem Place.isAboutTag_ofReported (raw : Reported.Place) :
    ∀ notice ∈ (Place.ofReported raw).notices, notice.isAboutTag = true := by
  intro notice hmem
  simp only [Place.ofReported, Noted.notices_bind, Noted.notices_pure, List.append_nil,
    List.mem_append] at hmem
  rcases hmem with hkind | hcolor
  · exact Tag.isAboutTag_take _ _ notice hkind
  · exact Tag.isAboutTag_takeOptional _ _ notice hcolor

/-- What the record of a compartment brings about tags. -/
def Reported.Compartment.tagNotices (raw : Reported.Compartment) : List Notice :=
  (Tag.takeOptional Color raw.color).notices ++
    (Tag.take CompartmentKind.shelf raw.kind).notices

theorem Reported.Compartment.isAboutTag_tagNotices (raw : Reported.Compartment) :
    ∀ notice ∈ raw.tagNotices, notice.isAboutTag = true := by
  intro notice hmem
  rcases List.mem_append.mp hmem with hcolor | hkind
  · exact Tag.isAboutTag_takeOptional _ _ notice hcolor
  · exact Tag.isAboutTag_take _ _ notice hkind

theorem Compartment.filter_ofReported (place : Place) (claims : Claims)
    (raw : Reported.Compartment) :
    (Compartment.ofReported place claims raw).notices.filter Notice.isAboutTag = raw.tagNotices ∧
      (Compartment.ofReported place claims raw).notices.filter Notice.isAboutRecord = [] := by
  have hnotices : (Compartment.ofReported place claims raw).notices =
      (compartmentGames (.compartment place.id raw.id) claims raw).notices ++ raw.tagNotices := by
    simp only [Compartment.ofReported, Noted.notices_bind, Noted.notices_pure, List.append_nil]
    rfl
  have hgames :
      (compartmentGames (.compartment place.id raw.id) claims raw).notices.filter
          Notice.isAboutTag = [] ∧
        (compartmentGames (.compartment place.id raw.id) claims raw).notices.filter
          Notice.isAboutRecord = [] := by
    unfold compartmentGames
    cases raw.games with
    | none => exact ⟨rfl, rfl⟩
    | some list =>
      simp only [Noted.notices_bind, Noted.notices_pure, List.append_nil]
      exact filter_claimGames _ claims list
  rcases filter_of_isAboutTag raw.isAboutTag_tagNotices with ⟨htags, hrecords⟩
  rw [hnotices, List.filter_append, List.filter_append, hgames.1, hgames.2, htags, hrecords]
  exact ⟨rfl, rfl⟩

/-- What the record of a storefront brings about tags. -/
def Reported.Storefront.tagNotices (raw : Reported.Storefront) : List Notice :=
  (Tag.take Platform.steam raw.platform).notices ++
    ((Tag.take BillingCycle.monthly raw.cycle).notices ++
      (Tag.take PaymentMethod.generic raw.method).notices)

theorem Reported.Storefront.isAboutTag_tagNotices (raw : Reported.Storefront) :
    ∀ notice ∈ raw.tagNotices, notice.isAboutTag = true := by
  intro notice hmem
  simp only [tagNotices, List.mem_append] at hmem
  rcases hmem with hplatform | hcycle | hmethod
  · exact Tag.isAboutTag_take _ _ notice hplatform
  · exact Tag.isAboutTag_take _ _ notice hcycle
  · exact Tag.isAboutTag_take _ _ notice hmethod

theorem Storefront.filter_ofReported (claims : Claims) (raw : Reported.Storefront) :
    (Storefront.ofReported claims raw).notices.filter Notice.isAboutTag = raw.tagNotices ∧
      (Storefront.ofReported claims raw).notices.filter Notice.isAboutRecord = [] := by
  have hnotices : (Storefront.ofReported claims raw).notices =
      raw.tagNotices ++ (claimGames (.storefront raw.id) claims raw.games).notices := by
    simp only [Storefront.ofReported, Noted.notices_bind, Noted.notices_pure, List.append_nil,
      Reported.Storefront.tagNotices, List.append_assoc]
  rcases filter_claimGames (.storefront raw.id) claims raw.games with ⟨hgameTags, hgameRecords⟩
  rcases filter_of_isAboutTag raw.isAboutTag_tagNotices with ⟨htags, hrecords⟩
  rw [hnotices, List.filter_append, List.filter_append, hgameTags, hgameRecords, htags, hrecords]
  exact ⟨List.append_nil _, rfl⟩

/-! ## Places -/

namespace Roster

variable {roster : Roster}

/-- After a new place, its identifier is among those of the roster. -/
theorem mem_ids_add (h : roster.WellIndexed) {raw : Reported.Place} (hnew : raw.id ∉ roster.ids) :
    ∀ id, id ∈ (roster.add raw).value.ids ↔ id ∈ raw.id :: roster.ids := by
  intro id
  rw [add_of_notMem h hnew]
  simp only [ids, List.map_append, List.map_singleton, Place.ofReported_id]
  rw [List.mem_append, List.mem_singleton, List.mem_cons, or_comm]

/-- Every place that is not the first with its identifier leaves a notice. -/
theorem recordNotices_addAll (h : roster.WellIndexed) (raws : List Reported.Place) :
    (roster.addAll raws).notices.filter Notice.isAboutRecord =
      (latersAfter Reported.Place.id roster.ids raws).map fun raw =>
        .duplicateLocation raw.id := by
  induction raws generalizing roster with
  | nil => rfl
  | cons raw rest ih =>
    have hrest := ih (h.add raw)
    simp only [addAll, Noted.notices_bind, List.filter_append, latersAfter]
    by_cases hmem : raw.id ∈ roster.ids
    · rw [add_of_mem h hmem] at hrest ⊢
      rw [if_pos hmem, hrest]
      rfl
    · rw [if_neg hmem, hrest, latersAfter_congr _ rest (mem_ids_add h hmem),
        add_of_notMem h hmem, (filter_of_isAboutTag (Place.isAboutTag_ofReported raw)).2,
        List.nil_append]

/-- The first ones bring what they say about tags. -/
theorem tagNotices_addAll (h : roster.WellIndexed) (raws : List Reported.Place) :
    (roster.addAll raws).notices.filter Notice.isAboutTag =
      (firstsAfter Reported.Place.id roster.ids raws).flatMap fun raw =>
        (Place.ofReported raw).notices := by
  induction raws generalizing roster with
  | nil => rfl
  | cons raw rest ih =>
    have hrest := ih (h.add raw)
    simp only [addAll, Noted.notices_bind, List.filter_append, firstsAfter]
    by_cases hmem : raw.id ∈ roster.ids
    · rw [add_of_mem h hmem] at hrest ⊢
      rw [if_pos hmem, hrest]
      rfl
    · rw [if_neg hmem, hrest, firstsAfter_congr _ rest (mem_ids_add h hmem), List.flatMap_cons,
        add_of_notMem h hmem, (filter_of_isAboutTag (Place.isAboutTag_ofReported raw)).1]

end Roster

/-! ## Compartments -/

/-- Of each listing that comes first, a run brings what the record says, or that it is dropped. -/
theorem Progress.filter_addAll {kind : Notice → Bool}
    {brought : Reported.Compartment → List Notice}
    (hkind : ∀ place claims raw,
      (Compartment.ofReported place claims raw).notices.filter kind = brought raw)
    {roster : Roster} (h : roster.WellIndexed) (progress : Progress)
    (hroster : progress.roster = roster.holding progress.compartments)
    (listings : List Listing) :
    (progress.addAll listings).notices.filter kind =
      (firstsAfter Listing.id progress.seen listings).flatMap fun listing =>
        if (listing.placed? roster).isSome then brought listing.raw
        else [Notice.orphan listing.id listing.raw.placeId].filter kind := by
  induction listings generalizing progress with
  | nil => rfl
  | cons listing rest ih =>
    rw [addAll, Noted.notices_bind, List.filter_append, firstsAfter]
    by_cases hseen : listing.id ∈ progress.seen
    · rw [if_pos hseen, add_of_seen hseen]
      exact ih progress hroster
    · rw [if_neg hseen, List.flatMap_cons]
      cases hplace : listing.placed? roster with
      | none =>
        rw [add_of_orphan hroster hseen hplace]
        rw [ih { progress with seen := listing.id :: progress.seen } hroster]
        rfl
      | some placed =>
        rcases placed with ⟨place, raw⟩
        have hraw : raw = listing.raw := by
          rcases Option.map_eq_some_iff.mp hplace with ⟨found, -, hpair⟩
          exact (Prod.mk.inj hpair).2.symm
        have hadd := add_of_placed h hroster hseen hplace
        have hrest := ih (progress.add listing).value (by rw [hadd])
        rw [hadd] at hrest ⊢
        rw [hrest, hkind, hraw]
        rfl

/-! ## Batches -/

section

variable (places : List Reported.Place) (beside : List Reported.Compartment) (claims : Claims)

/-- The notices of a batch are those of its places, then those of its compartments. -/
theorem takePlaces_notices :
    (takePlaces places beside claims).notices = (Roster.empty.addAll places).notices ++
      (Progress.addAll { roster := rosterOf places, seen := [], compartments := [], claims }
        (listings places beside)).notices := by
  simp only [takePlaces, Noted.notices_bind, Noted.notices_pure, List.append_nil]
  rfl

/-- Every further record of a place leaves a notice, and so does every first listing of a
compartment whose place has no record. -/
theorem takePlaces_recordNotices :
    (takePlaces places beside claims).notices.filter Notice.isAboutRecord =
      ((latersAfter Reported.Place.id [] places).map fun raw => .duplicateLocation raw.id) ++
        ((firstsAfter Listing.id [] (listings places beside)).filter fun listing =>
          (listing.placed? (rosterOf places)).isNone).map fun listing =>
            .orphan listing.id listing.raw.placeId := by
  have hplaces := Roster.recordNotices_addAll Roster.wellIndexed_empty places
  have hcompartments := Progress.filter_addAll
    (fun place claims raw => (Compartment.filter_ofReported place claims raw).2)
    (rosterOf_wellIndexed places)
    { roster := rosterOf places, seen := [], compartments := [], claims }
    (rosterOf_holding_nil places).symm (listings places beside)
  rw [takePlaces_notices, List.filter_append, hplaces, hcompartments]
  congr 1
  generalize firstsAfter Listing.id [] (listings places beside) = firsts
  induction firsts with
  | nil => rfl
  | cons listing rest ih =>
    rw [List.flatMap_cons, ih]
    cases hplaced : listing.placed? (rosterOf places) with
    | none =>
      have hdropped : ((listing :: rest).filter fun listing =>
          (listing.placed? (rosterOf places)).isNone) = listing :: rest.filter fun listing =>
            (listing.placed? (rosterOf places)).isNone :=
        List.filter_cons_of_pos (by rw [hplaced]; rfl)
      rw [hdropped]
      rfl
    | some placed =>
      have hkept : ((listing :: rest).filter fun listing =>
          (listing.placed? (rosterOf places)).isNone) = rest.filter fun listing =>
            (listing.placed? (rosterOf places)).isNone :=
        List.filter_cons_of_neg (by rw [hplaced]; exact Bool.false_ne_true)
      rw [hkept]
      rfl

/-- Records that are kept bring what they say about tags. -/
theorem takePlaces_tagNotices :
    (takePlaces places beside claims).notices.filter Notice.isAboutTag =
      ((firstsAfter Reported.Place.id [] places).flatMap fun raw =>
        (Place.ofReported raw).notices) ++
        (keptIn places beside).flatMap fun record => record.2.tagNotices := by
  have hplaces := Roster.tagNotices_addAll Roster.wellIndexed_empty places
  have hcompartments := Progress.filter_addAll
    (fun place claims raw => (Compartment.filter_ofReported place claims raw).1)
    (rosterOf_wellIndexed places)
    { roster := rosterOf places, seen := [], compartments := [], claims }
    (rosterOf_holding_nil places).symm (listings places beside)
  rw [takePlaces_notices, List.filter_append, hplaces, hcompartments, keptIn, keptCompartments]
  congr 1
  generalize firstsAfter Listing.id [] (listings places beside) = firsts
  induction firsts with
  | nil => rfl
  | cons listing rest ih =>
    rw [List.flatMap_cons, ih, List.filterMap_cons]
    cases hplaced : listing.placed? (rosterOf places) with
    | none => rfl
    | some placed =>
      rcases Option.map_eq_some_iff.mp hplaced with ⟨found, -, rfl⟩
      rfl

end

/-! ## Storefronts -/

/-- Every further record of a storefront leaves a notice, and the kept ones bring what they say
about tags. -/
theorem filter_addStorefronts (kept : List Storefront) (claims : Claims)
    (raws : List Reported.Storefront) :
    (addStorefronts kept claims raws).notices.filter Notice.isAboutRecord =
        (latersAfter Reported.Storefront.id (kept.map Storefront.id) raws).map
          (fun raw => .duplicateLocation raw.id) ∧
      (addStorefronts kept claims raws).notices.filter Notice.isAboutTag =
        (firstsAfter Reported.Storefront.id (kept.map Storefront.id) raws).flatMap
          Reported.Storefront.tagNotices := by
  induction raws generalizing kept claims with
  | nil => exact ⟨rfl, rfl⟩
  | cons raw rest ih =>
    simp only [addStorefronts, firstsAfter, latersAfter]
    by_cases hmem : raw.id ∈ kept.map Storefront.id
    · have hany : (kept.any fun storefront => storefront.id == raw.id) = true := by
        simpa [List.any_eq_true, List.mem_map] using hmem
      rcases ih kept claims with ⟨hrecords, htags⟩
      rw [if_pos hany, if_pos hmem, if_pos hmem]
      simp only [Noted.notices_bind, List.filter_append, hrecords, htags]
      exact ⟨rfl, rfl⟩
    · have hany : ¬ (kept.any fun storefront => storefront.id == raw.id) = true := by
        simpa [List.any_eq_true, List.mem_map] using hmem
      have hids : ∀ id, id ∈ (kept ++ [(Storefront.ofReported claims raw).value.1]).map
          Storefront.id ↔ id ∈ raw.id :: kept.map Storefront.id := by
        intro id
        rw [List.map_append, List.mem_append, List.mem_cons, or_comm, List.map_singleton,
          List.mem_singleton, Storefront.ofReported_id]
      rcases ih (kept ++ [(Storefront.ofReported claims raw).value.1])
        (Storefront.ofReported claims raw).value.2 with ⟨hrecords, htags⟩
      rcases Storefront.filter_ofReported claims raw with ⟨hownTags, hownRecords⟩
      rw [if_neg hany, if_neg hmem, if_neg hmem, List.flatMap_cons]
      simp only [Noted.notices_bind, List.filter_append, hrecords, htags, hownRecords, hownTags]
      rw [latersAfter_congr _ rest hids, firstsAfter_congr _ rest hids]
      exact ⟨rfl, rfl⟩

theorem takeStorefronts_recordNotices (claims : Claims) (raws : List Reported.Storefront) :
    (takeStorefronts claims raws).notices.filter Notice.isAboutRecord =
      (latersAfter Reported.Storefront.id [] raws).map fun raw => .duplicateLocation raw.id :=
  (filter_addStorefronts [] claims raws).1

/-! ## Nothing to account for -/

section

variable {places : List Reported.Place} {beside : List Reported.Compartment}

/-- A batch drops no record if its places have different identifiers and every listing has one of
them. -/
theorem takePlaces_recordNotices_eq_nil (hplaces : (places.map Reported.Place.id).Nodup)
    (hplaced : ∀ listing ∈ listings places beside,
      ∃ id ∈ places.map Reported.Place.id, listing.placeId = some id) (claims : Claims) :
    (takePlaces places beside claims).notices.filter Notice.isAboutRecord = [] := by
  have hnone : ((firstsAfter Listing.id [] (listings places beside)).filter fun listing =>
      (listing.placed? (rosterOf places)).isNone) = [] := by
    rw [List.filter_eq_nil_iff]
    intro listing hfirst
    rcases hplaced listing ((firstsAfter_sublist _ _ _).subset hfirst) with ⟨id, hid, hplaceId⟩
    rcases (rosterOf_wellIndexed places).find?_of_mem (mem_rosterOf_ids.mpr hid) with
      ⟨slot, place, hfind, -⟩
    rw [Listing.placed?, hplaceId, Option.bind_some, hfind]
    exact Bool.false_ne_true
  rw [takePlaces_recordNotices, hnone,
    latersAfter_eq_nil hplaces fun _ _ => List.not_mem_nil]
  rfl

/-- A batch without lists of games leaves all games to others, and has nothing to say about them. -/
theorem takePlaces_leaves_games
    (hgames : ∀ listing ∈ listings places beside, listing.raw.games = none) (claims : Claims) :
    (takePlaces places beside claims).value.2 = claims ∧
      gameNotices (takePlaces places beside claims).notices = [] := by
  have hmentions : ((keptIn places beside).map fun record => (record.1.id, record.2)).flatMap
      mentionsOf = [] := by
    rw [List.flatMap_eq_nil_iff]
    intro record hrecord
    rcases List.mem_map.mp hrecord with ⟨kept, hkept, rfl⟩
    rcases exists_listing_of_mem_keptIn hkept with ⟨listing, hlisting, hraw⟩
    rw [mentionsOf, hraw, hgames listing hlisting]
    rfl
  rcases takePlaces_mentions places beside claims with ⟨-, hclaims, hnotices⟩
  rw [hclaims, hnotices, hmentions]
  exact ⟨rfl, rfl⟩

/-- A batch whose records bring nothing about tags has nothing to say about tags. -/
theorem takePlaces_tagNotices_eq_nil (hplaces : ∀ raw ∈ places, (Place.ofReported raw).notices = [])
    (hlisted : ∀ listing ∈ listings places beside, listing.raw.tagNotices = [])
    (claims : Claims) :
    (takePlaces places beside claims).notices.filter Notice.isAboutTag = [] := by
  rw [takePlaces_tagNotices, List.append_eq_nil_iff, List.flatMap_eq_nil_iff,
    List.flatMap_eq_nil_iff]
  constructor
  · intro raw hfirst
    exact hplaces raw ((firstsAfter_sublist _ _ _).subset hfirst)
  · intro record hkept
    rcases exists_listing_of_mem_keptIn hkept with ⟨listing, hlisting, hraw⟩
    rw [hraw]
    exact hlisted listing hlisting

end

section

variable {claims : Claims} {raws : List Reported.Storefront}

/-- A list of storefronts drops no record if they have different identifiers. -/
theorem takeStorefronts_recordNotices_eq_nil (h : (raws.map Reported.Storefront.id).Nodup) :
    (takeStorefronts claims raws).notices.filter Notice.isAboutRecord = [] := by
  rw [takeStorefronts_recordNotices, latersAfter_eq_nil h fun _ _ => List.not_mem_nil]
  rfl

/-- Nor does it drop a game if their games have different identifiers and are free. -/
theorem takeStorefronts_gameNotices_eq_nil
    (h : ((raws.flatMap Reported.Storefront.games).map Reported.Game.id).Nodup)
    (hfree : ∀ game ∈ raws.flatMap Reported.Storefront.games, game.id ∉ claims.games) :
    gameNotices (takeStorefronts claims raws).notices = [] := by
  have hsub : (keptStorefronts raws).Sublist raws := firstsAfter_sublist _ _ _
  have hlater : latersAfter Mention.id claims.games
      ((keptStorefronts raws).flatMap Reported.Storefront.mentions) = [] := by
    apply latersAfter_eq_nil
    · rw [Reported.Storefront.mentions_ids]
      exact h.sublist ((hsub.flatMap Reported.Storefront.games).map Reported.Game.id)
    · intro mention hmention
      have hid := List.mem_map_of_mem (f := Mention.id) hmention
      rw [Reported.Storefront.mentions_ids] at hid
      rcases List.mem_map.mp hid with ⟨game, hgame, heq⟩
      rw [← heq]
      exact hfree game ((hsub.flatMap Reported.Storefront.games).subset hgame)
  have hnotices := takeMentions_notices claims
    ((keptStorefronts raws).flatMap Reported.Storefront.mentions)
  rw [hlater] at hnotices
  rw [(takeStorefronts_mentions claims raws).2.2]
  exact List.forall₂_nil_left_iff.mp hnotices

end

end GameShelf
