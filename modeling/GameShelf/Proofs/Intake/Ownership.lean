import GameShelf.Proofs.Intake.Decoded
import GameShelf.Proofs.Intake.Storefronts

/-!
# One owner for each game

A payload may list a game as often as it likes. In the library that comes of it the game has one
owner, the first one that lists it among the records that are kept, and every other listing is
told of in a notice.

* `Library.OwnsExclusively`: what that means for a library, the payload and the notices.
* `Library.ofPayload_ownsExclusively`: it holds of every payload that can be decoded.
-/

namespace GameShelf

/-! ## Who holds what -/

namespace Library

/-- The games of a library, each with the place or storefront whose lists hold it. -/
def holdings (library : Library) : List (String × Game) :=
  library.places.flatMap (fun place =>
    place.compartments.flatMap fun compartment => compartment.games.map (place.id, ·)) ++
  library.storefronts.flatMap fun storefront => storefront.games.map (storefront.id, ·)

/-- The games in all lists of a library. -/
def games (library : Library) : List Game :=
  library.holdings.map Prod.snd

/-- Whether a game is in the list of an owner. -/
def Holds (library : Library) (game : Game) : Owner → Prop
  | .compartment placeId id =>
    ∃ place ∈ library.places, place.id = placeId ∧
      ∃ compartment ∈ place.compartments, compartment.id = id ∧ game ∈ compartment.games
  | .storefront id =>
    ∃ storefront ∈ library.storefronts, storefront.id = id ∧ game ∈ storefront.games

end Library

namespace Reported.Library

/-- The records of compartments that are kept, each with the identifier of its place: the first
listing of every compartment, if the place that it names or is nested under has a record. -/
def keptCompartments (raw : Library) : List (String × Compartment) :=
  (firstsAfter Listing.id [] (listings (raw.places.getD []) (raw.compartments.getD []))).filterMap
    fun listing =>
      (listing.placeId.filter fun id => id ∈ (raw.places.getD []).map Place.id).map fun id =>
        (id, listing.raw)

/-- The mentions of games under kept records in the order in which they are taken in. -/
def mentions (raw : Library) : List Mention :=
  raw.keptCompartments.flatMap mentionsOf ++
  (keptStorefronts (raw.storefronts.getD [])).flatMap fun record =>
    Mention.ofList (.storefront record.id) record.games

end Reported.Library

/-- Each game of a library has one owner, the first that mentions it. -/
structure Library.OwnsExclusively (library : Library) (raw : Reported.Library)
    (notices : List Notice) : Prop where
  /-- No game is in two lists, or twice in one. -/
  distinct : (library.games.map Game.id).Nodup
  /-- The owner of a game is the compartment in whose list it is. -/
  owner_compartment : ∀ place ∈ library.places, ∀ compartment ∈ place.compartments,
    ∀ game ∈ compartment.games, game.owner = .compartment place.id compartment.id
  /-- The owner of a game is the storefront in whose list it is. -/
  owner_storefront : ∀ storefront ∈ library.storefronts, ∀ game ∈ storefront.games,
    game.owner = .storefront storefront.id
  /-- The compartments are those of the kept records, in their order. -/
  kept_compartments : ∀ place ∈ library.places, place.compartments.map Compartment.id =
    (raw.keptCompartments.filter fun record => record.1 == place.id).map fun record => record.2.id
  /-- The places of kept records are there. -/
  kept_places : ∀ record ∈ raw.keptCompartments, ∃ place ∈ library.places, place.id = record.1
  /-- The storefronts are those of the kept records, in their order. -/
  kept_storefronts : library.storefronts.map Storefront.id =
    (keptStorefronts (raw.storefronts.getD [])).map Reported.Storefront.id
  /-- A game that a kept record mentions is held where it is mentioned first. -/
  first_held : ∀ before mention after, raw.mentions = before ++ mention :: after →
    mention.id ∉ before.map Mention.id → library.Holds mention.game mention.owner
  /-- Nothing else is held. -/
  held_first : ∀ game ∈ library.games, ∃ before mention after,
    raw.mentions = before ++ mention :: after ∧ mention.id ∉ before.map Mention.id ∧
      game = mention.game
  /-- Every later mention leaves one notice, in their order: where the game is, and where it is
  not. -/
  later_noticed : List.Forall₂
    (fun mention notice => ∃ keptUnder game, (keptUnder, game) ∈ library.holdings ∧
      game.id = mention.id ∧
      notice = .duplicateGame mention.id keptUnder mention.owner.location)
    (latersAfter Mention.id [] raw.mentions) (gameNotices notices)

/-! ## What a payload comes to -/

/-- The parts that a library is made of. -/
theorem Library.ofPayload_eq_ok {payload : Json} {noted : Noted Library}
    (h : Library.ofPayload payload = .ok (some noted)) :
    ∃ raw, Reported.Library.layout.read payload = .ok raw ∧
      noted.value.places = (batchOf raw).value.1.places ∧
      noted.value.storefronts = (frontsOf raw).value.1 ∧
      noted.notices = (batchOf raw).notices ++ (frontsOf raw).notices := by
  rcases Library.isMadeFrom.exists_read h with ⟨raw, hread, hmade⟩
  rw [Library.ofReported?_eq] at hmade
  rcases Option.map_eq_some_iff.mp hmade with ⟨census, -, rfl⟩
  exact ⟨raw, hread, rfl, rfl, rfl⟩

namespace Library

/-- What the lists of a library hold, place by place. -/
theorem games_eq (library : Library) :
    library.games =
      (library.places.flatMap Place.compartments).flatMap Compartment.games ++
        library.storefronts.flatMap Storefront.games := by
  simp [games, holdings, List.map_flatMap, List.flatMap_assoc, Function.comp_def]

/-- If every owner is named by the list that holds the game, every game is where its owner
says. -/
theorem holds_of_mem_games {library : Library}
    (hcompartment : ∀ place ∈ library.places, ∀ compartment ∈ place.compartments,
      ∀ game ∈ compartment.games, game.owner = .compartment place.id compartment.id)
    (hstorefront : ∀ storefront ∈ library.storefronts, ∀ game ∈ storefront.games,
      game.owner = .storefront storefront.id)
    {game : Game} (h : game ∈ library.games) :
    library.Holds game game.owner ∧ (game.owner.location, game) ∈ library.holdings := by
  rcases List.mem_map.mp h with ⟨⟨location, held⟩, hheld, rfl⟩
  have hmem := hheld
  rw [holdings, List.mem_append] at hmem
  rcases hmem with hmem | hmem
  · rcases List.mem_flatMap.mp hmem with ⟨place, hplace, hmem⟩
    rcases List.mem_flatMap.mp hmem with ⟨compartment, hinside, hmem⟩
    rcases List.mem_map.mp hmem with ⟨_, hgame, hpair⟩
    rcases Prod.mk.inj hpair with ⟨rfl, rfl⟩
    rw [hcompartment place hplace compartment hinside _ hgame]
    exact ⟨⟨place, hplace, rfl, compartment, hinside, rfl, hgame⟩, hheld⟩
  · rcases List.mem_flatMap.mp hmem with ⟨storefront, hstore, hmem⟩
    rcases List.mem_map.mp hmem with ⟨_, hgame, hpair⟩
    rcases Prod.mk.inj hpair with ⟨rfl, rfl⟩
    rw [hstorefront storefront hstore _ hgame]
    exact ⟨⟨storefront, hstore, rfl, hgame⟩, hheld⟩

end Library

/-- The kept records of a library are told by the identifiers alone. -/
theorem keptIn_eq_keptCompartments (raw : Reported.Library) :
    (keptIn (raw.places.getD []) (raw.compartments.getD [])).map
      (fun record => (record.1.id, record.2)) = raw.keptCompartments :=
  keptIn_ids ..

/-- Places and storefronts together take in the mentions under the kept records. -/
theorem takeMentions_mentions (raw : Reported.Library) :
    (batchOf raw).value.1.compartments.flatMap Compartment.games ++
        (frontsOf raw).value.1.flatMap Storefront.games =
          (takeMentions .none raw.mentions).value.1 ∧
      gameNotices ((batchOf raw).notices ++ (frontsOf raw).notices) =
        (takeMentions .none raw.mentions).notices := by
  rcases takePlaces_mentions (raw.places.getD []) (raw.compartments.getD []) .none with
    ⟨hinside, hclaims, hnotices⟩
  rw [keptIn_eq_keptCompartments] at hinside hclaims hnotices
  rcases takeStorefronts_mentions (batchOf raw).value.2 (raw.storefronts.getD []) with
    ⟨hfronts, -, hfrontNotices⟩
  rw [batchOf, hclaims] at hfronts hfrontNotices
  rw [Reported.Library.mentions, takeMentions_append, gameNotices_append, frontsOf, batchOf]
  constructor
  · rw [hinside, ← hfronts, ← hclaims]
  · rw [hnotices, ← hfrontNotices, ← hclaims]

section

variable {library : Library} {raw : Reported.Library}
  (hplaces : library.places = (batchOf raw).value.1.places)
  (hstorefronts : library.storefronts = (frontsOf raw).value.1)

include hstorefronts in
theorem Library.owner_of_storefront : ∀ storefront ∈ library.storefronts,
    ∀ game ∈ storefront.games, game.owner = .storefront storefront.id := by
  rw [hstorefronts]
  intro storefront hfront game hgame
  exact takeStorefronts_owner hfront hgame

include hplaces

theorem Library.owner_of_compartment : ∀ place ∈ library.places,
    ∀ compartment ∈ place.compartments, ∀ game ∈ compartment.games,
      game.owner = .compartment place.id compartment.id := by
  rw [hplaces]
  intro place hplace compartment hinside game hgame
  exact takePlaces_owner hplace hinside hgame

/-- The places have the compartments of the kept records that name them. -/
theorem Library.compartments_eq_kept : ∀ place ∈ library.places,
    place.compartments.map Compartment.id =
      (raw.keptCompartments.filter fun record => record.1 == place.id).map
        fun record => record.2.id := by
  rw [hplaces]
  intro place hplace
  rw [takePlaces_place_compartments hplace, ← keptIn_eq_keptCompartments, List.filter_map,
    List.map_map]
  rfl

/-- The place of a kept record is there. -/
theorem Library.exists_place_of_kept :
    ∀ record ∈ raw.keptCompartments, ∃ place ∈ library.places, place.id = record.1 := by
  intro record hrecord
  rw [← keptIn_eq_keptCompartments] at hrecord
  rcases List.mem_map.mp hrecord with ⟨kept, hkept, rfl⟩
  rcases List.mem_map.mp (mem_ids_of_mem_keptIn hkept) with ⟨base, hbase, hid⟩
  rw [hplaces, batchOf, takePlaces_places]
  exact ⟨_, List.mem_map_of_mem hbase, hid⟩

include hstorefronts

/-- The games of a library whose parts come of a payload are those of the first mentions. -/
theorem Library.games_perm :
    library.games.Perm ((firstsAfter Mention.id [] raw.mentions).map Mention.game) := by
  have hinside := (takePlaces_flatMap_perm (raw.places.getD []) (raw.compartments.getD [])
    .none).flatMap_right Compartment.games
  have hmentions := (takeMentions_mentions raw).1
  rw [takeMentions_games, Claims.games_none] at hmentions
  rw [library.games_eq, hplaces, hstorefronts, ← hmentions]
  exact hinside.append_right _

/-- What is first among the mentions is held where it is mentioned. -/
theorem Library.holds_first {mention : Mention}
    (h : mention ∈ firstsAfter Mention.id [] raw.mentions) :
    library.Holds mention.game mention.owner ∧
      (mention.owner.location, mention.game) ∈ library.holdings := by
  have hgame := (Library.games_perm hplaces hstorefronts).mem_iff.mpr (List.mem_map_of_mem h)
  exact Library.holds_of_mem_games (Library.owner_of_compartment hplaces)
    (Library.owner_of_storefront hstorefronts) hgame

end

/-- In the library that comes of a payload every game has one owner, the first kept record that
mentions it, and every further mention is told of. -/
theorem Library.ofPayload_ownsExclusively {payload : Json} {noted : Noted Library}
    (h : Library.ofPayload payload = .ok (some noted)) :
    ∃ raw, Reported.Library.layout.read payload = .ok raw ∧
      noted.value.OwnsExclusively raw noted.notices := by
  rcases Library.ofPayload_eq_ok h with ⟨raw, hread, hplaces, hstorefronts, hnotices⟩
  have hperm := Library.games_perm hplaces hstorefronts
  refine ⟨raw, hread, ?_⟩
  constructor
  case distinct =>
    have hnodup := nodup_firstsAfter Mention.id [] raw.mentions
    have hids := hperm.map Game.id
    rw [List.map_map] at hids
    exact hids.nodup_iff.mpr hnodup
  case owner_compartment => exact Library.owner_of_compartment hplaces
  case owner_storefront => exact Library.owner_of_storefront hstorefronts
  case kept_compartments => exact Library.compartments_eq_kept hplaces
  case kept_places => exact Library.exists_place_of_kept hplaces
  case kept_storefronts =>
    rw [hstorefronts]
    exact takeStorefronts_ids _ _
  case first_held =>
    intro before mention after hlist hbefore
    have hfirst : mention ∈ firstsAfter Mention.id [] raw.mentions :=
      mem_firstsAfter_iff.mpr ⟨List.not_mem_nil, before, after, hlist, hbefore⟩
    exact (Library.holds_first hplaces hstorefronts hfirst).1
  case held_first =>
    intro game hgame
    rcases List.mem_map.mp (hperm.mem_iff.mp hgame) with ⟨mention, hmention, rfl⟩
    rcases mem_firstsAfter_iff.mp hmention with ⟨-, before, after, hlist, hbefore⟩
    exact ⟨before, mention, after, hlist, hbefore, rfl⟩
  case later_noticed =>
    -- the notices are those of the mentions, whose games are held where they came first
    have hlater := takeMentions_notices_first raw.mentions
    rw [← (takeMentions_mentions raw).2, ← hnotices] at hlater
    refine List.Forall₂.imp ?_ hlater
    rintro mention notice ⟨first, hfirst, hid, rfl⟩
    exact ⟨first.owner.location, first.game,
      (Library.holds_first hplaces hstorefronts hfirst).2, hid, rfl⟩

/-- A payload that lists a game in a compartment and in a storefront, and another game only in a
compartment without a place. -/
def twiceListed : Json :=
  let game (id name : String) : Json := .record [("id", .text id), ("name", .text name)]
  .record
    [("digitalLocations", .list
      [.record [("id", .text "d"), ("items", .list [game "g" "Go"]), ("name", .text "Store")]]),
     ("physicalLocations", .list
      [.record
        [("id", .text "p"), ("name", .text "Home"),
         ("sublocations", .list
          [.record
            [("id", .text "c"), ("items", .list [game "g" "Go"]), ("name", .text "Shelf")]])]]),
     ("sublocations", .list
      [.record
        [("id", .text "x"), ("items", .list [game "h" "Hex"]), ("name", .text "Box"),
         ("parentLocationId", .text "nowhere")]])]

theorem Library.twiceListed_ownsExclusively :
    ∃ noted raw, Library.ofPayload twiceListed = .ok (some noted) ∧
      Reported.Library.layout.read twiceListed = .ok raw ∧
      noted.value.OwnsExclusively raw noted.notices ∧
      noted.value.games.map Game.id = ["g"] ∧
      noted.notices = [.orphan "x" (some "nowhere"), .duplicateGame "g" "p" "d"] := by
  obtain ⟨noted, hnoted⟩ : ∃ noted, Library.ofPayload twiceListed = .ok (some noted) := ⟨_, rfl⟩
  rcases Library.ofPayload_ownsExclusively hnoted with ⟨raw, hread, howns⟩
  obtain rfl := Option.some.inj (Except.ok.inj hnoted)
  exact ⟨_, raw, rfl, hread, howns, rfl, rfl⟩

end GameShelf
