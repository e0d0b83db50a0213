import GameShelf.Proofs.Decode.Leading
import GameShelf.Proofs.Intake.Ownership

/-!
# A library and its parts taken in alone

The places of a library are those that its payload gives as a batch. Its storefronts are those
that their list gives alone, except that they lack the games that compartments hold already.

* `Claims.Beyond`: the same games have an owner, and some besides.
* `takeStorefronts_without`: storefronts after places, and storefronts alone.
* `Library.ofPayload_agrees`: a library agrees with its parts taken in alone.
-/

namespace GameShelf

/-! ## Games that are held before -/

/-- The same games have an owner, and those in a list besides. -/
def Claims.Beyond (full alone : Claims) (held : List String) : Prop :=
  ∀ game, game ∈ full.games ↔ game ∈ held ∨ game ∈ alone.games

namespace Claims.Beyond

variable {full alone : Claims} {held : List String}

/-- Of the games that are mentioned, those that are held besides drop out. -/
theorem takeMentions_games (h : full.Beyond alone held) (mentions : List Mention) :
    (takeMentions full mentions).value.1 =
      (takeMentions alone mentions).value.1.filter fun game => game.id ∉ held := by
  have hmet : ∀ game, game ∈ full.games ↔ game ∈ held ++ alone.games := by
    intro game
    rw [h game, List.mem_append]
  rw [GameShelf.takeMentions_games, GameShelf.takeMentions_games,
    firstsAfter_congr Mention.id mentions hmet, firstsAfter_append, List.filter_map]
  rfl

/-- Mentions that are taken in on both sides keep the difference as it is. -/
theorem takeMentions (h : full.Beyond alone held) (mentions : List Mention) :
    (takeMentions full mentions).value.2.Beyond (GameShelf.takeMentions alone mentions).value.2
      held := by
  intro game
  rw [mem_games_takeMentions, mem_games_takeMentions, h game, or_assoc]

end Claims.Beyond

/-! ## Storefronts -/

/-- A storefront without some games. -/
def Storefront.without (held : List String) (storefront : Storefront) : Storefront :=
  { storefront with games := storefront.games.filter fun game => game.id ∉ held }

section

variable {full alone : Claims} {held : List String}

/-- A storefront lacks the games that are held besides, and is otherwise the same. -/
theorem Storefront.ofReported_without (h : full.Beyond alone held) (raw : Reported.Storefront) :
    (Storefront.ofReported full raw).value.1 =
        (Storefront.ofReported alone raw).value.1.without held ∧
      (Storefront.ofReported full raw).value.2.Beyond (Storefront.ofReported alone raw).value.2
        held := by
  have hgames := h.takeMentions_games (Mention.ofList (.storefront raw.id) raw.games)
  have hclaims := h.takeMentions (Mention.ofList (.storefront raw.id) raw.games)
  rw [← claimGames_eq, ← claimGames_eq] at hgames hclaims
  refine ⟨?_, hclaims⟩
  simp only [Storefront.ofReported, Noted.value_bind, Noted.value_pure, Storefront.without, hgames]

/-- So do all storefronts of a list. -/
theorem takeStorefronts_without (h : full.Beyond alone held) (raws : List Reported.Storefront) :
    (takeStorefronts full raws).value.1 =
      (takeStorefronts alone raws).value.1.map (Storefront.without held) := by
  rw [takeStorefronts_value, takeStorefronts_value]
  generalize keptStorefronts raws = kept
  induction kept generalizing full alone with
  | nil => rfl
  | cons raw rest ih =>
    rcases Storefront.ofReported_without h raw with ⟨hfirst, hclaims⟩
    simp only [takeRecords, Noted.value_bind, Noted.value_pure, List.map_cons, hfirst, ih hclaims]

end

/-! ## Places -/

/-- The games in the compartments of places. -/
def heldInPlaces (places : List Place) : List String :=
  places.flatMap fun place => place.compartments.flatMap fun compartment =>
    compartment.games.map Game.id

/-- The games with an owner after a batch was taken in are those in its compartments. -/
theorem takePlaces_beyond (places : List Reported.Place) (beside : List Reported.Compartment) :
    (takePlaces places beside .none).value.2.Beyond .none
      (heldInPlaces (takePlaces places beside .none).value.1.places) := by
  intro game
  rcases takePlaces_mentions places beside .none with ⟨hgames, hclaims, -⟩
  -- place by place the compartments hold the games of the first mentions
  have hheld : heldInPlaces (takePlaces places beside .none).value.1.places =
      ((takePlaces places beside .none).value.1.places.flatMap Place.compartments).flatMap
        fun compartment => compartment.games.map Game.id := by
    rw [heldInPlaces, List.flatMap_assoc]
  have hperm := (takePlaces_flatMap_perm places beside .none).flatMap_right
    fun compartment => compartment.games.map Game.id
  have hfirst : (takePlaces places beside .none).value.1.compartments.flatMap
      (fun compartment => compartment.games.map Game.id) =
        ((takePlaces places beside .none).value.1.compartments.flatMap Compartment.games).map
          Game.id := by
    rw [List.map_flatMap]
  rw [hheld, hperm.mem_iff, hfirst, hgames, hclaims, mem_games_takeMentions, takeMentions_games,
    List.map_map]
  simp only [Claims.games_none, List.not_mem_nil, false_or, or_false]
  constructor
  · intro h
    rcases exists_mem_firstsAfter List.not_mem_nil h with ⟨mention, hmention, rfl⟩
    exact List.mem_map_of_mem hmention
  · intro h
    rcases List.mem_map.mp h with ⟨mention, hmention, rfl⟩
    exact List.mem_map_of_mem ((firstsAfter_sublist _ _ _).subset hmention)

/-! ## Payloads -/

section

variable {fields : Json.Fields} {raw : Reported.Library}

/-- The payload of a library is also one of a batch. -/
theorem Reported.Library.read_batch
    (h : Reported.Library.layout.read (.record fields) = .ok raw) :
    Reported.Batch.layout.read (.record fields) = .ok ⟨raw.places, raw.compartments⟩ := by
  rcases Decode.Layout.read_record h with ⟨values, hgives, rfl⟩
  have hleading := @Decode.Gives.leading [Option (List Reported.Storefront), Option Reported.Totals]
    [Option (List Reported.Place), Option (List Reported.Compartment)] _ _ _ hgives
  exact @Decode.Gives.read _ Reported.Batch.layout _ _ hleading

/-- The storefronts of a library are those that their list gives alone. -/
theorem Reported.Library.read_storefronts
    (h : Reported.Library.layout.read (.record fields) = .ok raw) {items : List Json}
    (hmem : ("digitalLocations", .list items) ∈ fields) :
    ∃ list, Decode.listOf Reported.Storefront.layout.read (.list items) = .ok list ∧
      raw.storefronts = some list := by
  rcases Decode.Layout.read_record h with ⟨values, hgives, rfl⟩
  have hkey : Reported.Library.layout.fields.1.answersTo "digitalLocations" = false := by decide
  have hothers : ("digitalLocations", .list items) ∈
      fields.filter fun field => !Reported.Library.layout.fields.1.answersTo field.1 :=
    List.mem_filter.mpr ⟨hmem, by rw [hkey, Bool.not_false]⟩
  rcases exists_of_map_eq_ok (hgives.tail.second hothers (by decide) (by decide)) with
    ⟨list, hlist, hsome⟩
  exact ⟨list, hlist, hsome.symm⟩

end

/-- What a payload of a batch comes to. -/
theorem Batch.ofPayload_of_read {payload : Json} {raw : Reported.Batch}
    (h : Reported.Batch.layout.read payload = .ok raw) :
    let taken := takePlaces (raw.places.getD []) (raw.compartments.getD []) .none
    Batch.ofPayload payload = .ok ⟨taken.value.1, taken.notices⟩ :=
  Batch.isMadeFrom.of_read h

/-- What a payload of storefronts comes to. -/
theorem Storefront.listOfPayload_of_read {payload : Json} {raws : List Reported.Storefront}
    (h : Decode.listOf Reported.Storefront.layout.read payload = .ok raws) :
    Storefront.listOfPayload payload =
      .ok ⟨(takeStorefronts .none raws).value.1, (takeStorefronts .none raws).notices⟩ :=
  Storefront.list_isMadeFrom.of_read h

/-- A library agrees with its parts. Its places are those of the batch in the payload, whose notices
come first; its storefronts are those of the list in the payload, without the games that its
compartments hold. -/
theorem Library.ofPayload_agrees {fields : Json.Fields} {noted : Noted Library}
    (h : Library.ofPayload (.record fields) = .ok (some noted)) :
    (∃ batch, Batch.ofPayload (.record fields) = .ok batch ∧
      batch.value.places = noted.value.places ∧ batch.notices <+: noted.notices) ∧
    ∀ items, Json.field? fields "digitalLocations" = some (.list items) →
      ∃ alone, Storefront.listOfPayload (.list items) = .ok alone ∧
        noted.value.storefronts =
          alone.value.map (Storefront.without (heldInPlaces noted.value.places)) := by
  rcases Library.ofPayload_eq_ok h with ⟨raw, hread, hplaces, hstorefronts, hnotices⟩
  constructor
  · refine ⟨_, Batch.ofPayload_of_read (Reported.Library.read_batch hread), hplaces.symm, ?_⟩
    rw [hnotices]
    exact List.prefix_append _ _
  · intro items hitems
    have hmem : ("digitalLocations", .list items) ∈ fields := by
      rcases List.lookup_eq_some_iff.mp hitems with ⟨before, after, rfl, -⟩
      exact List.mem_append_right before List.mem_cons_self
    rcases Reported.Library.read_storefronts hread hmem with ⟨list, hlist, hraw⟩
    refine ⟨_, Storefront.listOfPayload_of_read hlist, ?_⟩
    rw [hstorefronts, hplaces, frontsOf, batchOf, hraw]
    exact takeStorefronts_without (takePlaces_beyond _ _) list

/-- A payload whose storefront lists a game that its compartment holds, and one that it does not. -/
def partlyHeld : Json.Fields :=
  let game (id name : String) : Json := .record [("id", .text id), ("name", .text name)]
  [("digitalLocations", .list
    [.record
      [("id", .text "d"), ("items", .list [game "g" "Go", game "h" "Hex"]),
       ("name", .text "Store")]]),
   ("physicalLocations", .list
    [.record
      [("id", .text "p"), ("name", .text "Home"),
       ("sublocations", .list
        [.record
          [("id", .text "c"), ("items", .list [game "g" "Go"]), ("name", .text "Shelf")]])]])]

theorem Library.partlyHeld_agrees :
    ∃ noted batch alone items,
      Library.ofPayload (.record partlyHeld) = .ok (some noted) ∧
      Batch.ofPayload (.record partlyHeld) = .ok batch ∧
      batch.value.places = noted.value.places ∧ batch.notices <+: noted.notices ∧
      Json.field? partlyHeld "digitalLocations" = some (.list items) ∧
      Storefront.listOfPayload (.list items) = .ok alone ∧
      noted.value.storefronts =
        alone.value.map (Storefront.without (heldInPlaces noted.value.places)) ∧
      heldInPlaces noted.value.places = ["g"] ∧
      alone.value.map (fun storefront => storefront.games.map Game.id) = [["g", "h"]] ∧
      noted.value.storefronts.map (fun storefront => storefront.games.map Game.id) = [["h"]] := by
  obtain ⟨noted, hnoted⟩ : ∃ noted, Library.ofPayload (.record partlyHeld) = .ok (some noted) :=
    ⟨_, rfl⟩
  rcases Library.ofPayload_agrees hnoted with ⟨⟨batch, hbatch, hplaces, hnotices⟩, hparts⟩
  rcases hparts _ rfl with ⟨alone, halone, hstorefronts⟩
  obtain rfl := Option.some.inj (Except.ok.inj hnoted)
  obtain rfl := Except.ok.inj halone
  exact ⟨_, batch, _, _, rfl, hbatch, hplaces, hnotices, rfl, halone, hstorefronts, rfl, rfl, rfl⟩

end GameShelf
