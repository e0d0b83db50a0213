import GameShelf.Proofs.Calendar.DayText
import GameShelf.Proofs.Client.Shown
import GameShelf.Proofs.Decode.Echoed
import GameShelf.Proofs.Intake.Account
import GameShelf.Proofs.Tag.Wire

/-!
# What is asked for is what is shown

A change says what is to be created. If it comes back with an identifier, it is shown as it was
asked for: every name, tag, day and amount is the same, and only the white space around coordinates
and notes is gone. There is nothing to notice about it.

* `NewPlace.echoed`, `NewCompartment.echoed`, `NewStorefront.echoed`: the records that the client
  decodes.
* `Place.Echoes`, `Compartment.Echoes`, `Storefront.Echoes`: what is shown of what was asked for.
* `inputs_shown`: a place or a storefront alone, and places with compartments beside them.
-/

namespace GameShelf

open Decode (nullable_of_ok)

/-! ## Decoded records -/

section

variable (id : String)

namespace NewPlace

/-- The fields of a new place. -/
def said (input : NewPlace) : Json.Fields :=
  Input.text "name" input.name ++
    Input.tag "locationType" input.kind ++
    Input.given (Input.text "mapCoordinates") input.coordinates ++
    Input.given (Input.tag "bgColor") input.color

/-- A new place that comes back, as the client decodes it. -/
def echoed (input : NewPlace) : Reported.Place where
  id
  name := input.name
  kind := some (Tag.wire input.kind)
  coordinates := input.coordinates
  color := input.color.map Tag.wire
  compartments := []
  created := none
  updated := none

theorem plain_said (input : NewPlace) :
    PlainFields ["name", "locationType", "mapCoordinates", "bgColor"] input.said :=
  (((PlainFields.text _ _).append (.tag _ _)).append (.given (.text _) _)).append
    (.given (.tag _) _)

theorem read_echoed (input : NewPlace) :
    Reported.Place.layout.read (GameShelf.echoed id input.encode) = .ok (input.echoed id) := by
  refine input.plain_said.read_echoed Reported.Place.layout (by decide) (by decide) id
    (id, input.name, some (Tag.wire input.kind), input.coordinates, input.color.map Tag.wire, [],
      none, none, ()) (by decide) ?_
  rcases input with ⟨name, kind, coordinates, color⟩
  cases coordinates with
  | none => cases color <;> exact ⟨rfl, rfl, rfl, rfl, rfl, rfl, rfl, rfl, trivial⟩
  | some coordinates => cases color <;> exact ⟨rfl, rfl, rfl, rfl, rfl, rfl, rfl, rfl, trivial⟩

end NewPlace

namespace NewCompartment

/-- The fields of a new compartment. -/
def said (input : NewCompartment) : Json.Fields :=
  Input.text "name" input.name ++
    Input.tag "locationType" input.kind ++
    Input.text "parentLocationId" input.placeId ++
    Input.given (Input.text "description") input.description ++
    Input.given (Input.tag "bgColor") input.color

/-- A new compartment that comes back, as the client decodes it. -/
def echoed (input : NewCompartment) : Reported.Compartment where
  id
  name := input.name
  kind := some (Tag.wire input.kind)
  placeId := some input.placeId
  description := input.description
  color := input.color.map Tag.wire
  storedItems := none
  games := none
  created := none
  updated := none

theorem plain_said (input : NewCompartment) :
    PlainFields ["name", "locationType", "parentLocationId", "description", "bgColor"]
      input.said :=
  ((((PlainFields.text _ _).append (.tag _ _)).append (.text _ _)).append
    (.given (.text _) _)).append (.given (.tag _) _)

theorem read_echoed (input : NewCompartment) :
    Reported.Compartment.layout.read (GameShelf.echoed id input.encode) =
      .ok (input.echoed id) := by
  refine input.plain_said.read_echoed Reported.Compartment.layout (by decide) (by decide) id
    (id, input.name, some (Tag.wire input.kind), some input.placeId, input.description,
      input.color.map Tag.wire, none, none, none, none, ()) (by decide) ?_
  rcases input with ⟨name, kind, placeId, description, color⟩
  cases description with
  | none => cases color <;> exact ⟨rfl, rfl, rfl, rfl, rfl, rfl, rfl, rfl, rfl, rfl, trivial⟩
  | some description =>
    cases color <;> exact ⟨rfl, rfl, rfl, rfl, rfl, rfl, rfl, rfl, rfl, rfl, trivial⟩

end NewCompartment

namespace NewStorefront

/-- The fields of a new storefront. -/
def said (input : NewStorefront) : Json.Fields :=
  Input.text "name" input.name ++
    Input.tag "locationType" input.platform ++
    Input.flag "isSubscription" input.isSubscription ++
    Input.flag "isActive" input.isActive ++
    Input.given (Input.amount "monthlyCost") input.cost ++
    Input.tag "billingCycle" input.cycle ++
    Input.given (Input.date "nextPaymentDate") input.nextPayment ++
    Input.tag "paymentMethod" input.method

/-- A new storefront that comes back, as the client decodes it. An amount that is not finite is
lost. -/
def echoed (input : NewStorefront) : Reported.Storefront where
  id
  name := input.name
  platform := some (Tag.wire input.platform)
  isSubscription := some input.isSubscription
  isActive := some input.isActive
  cost := input.cost.filter Binary64.isFinite
  nextPayment := input.nextPayment.map Date.text
  cycle := some (Tag.wire input.cycle)
  method := some (Tag.wire input.method)
  games := []
  created := none
  updated := none

theorem plain_said (input : NewStorefront) :
    PlainFields ["name", "locationType", "isSubscription", "isActive", "monthlyCost",
      "billingCycle", "nextPaymentDate", "paymentMethod"] input.said :=
  (((((((PlainFields.text _ _).append (.tag _ _)).append (.flag _ _)).append (.flag _ _)).append
    (.given (.amount _) _)).append (.tag _ _)).append (.given (.date _) _)).append (.tag _ _)

theorem read_echoed (input : NewStorefront) :
    Reported.Storefront.layout.read (GameShelf.echoed id input.encode) =
      .ok (input.echoed id) := by
  have hcost : ∀ cost, Decode.amount (if cost.isFinite then .number (.real cost) else .null) =
      .ok ((some cost).filter Binary64.isFinite) :=
    fun cost => Backend.amount_optionalDouble (some cost)
  refine input.plain_said.read_echoed Reported.Storefront.layout (by decide) (by decide) id
    (id, input.name, some (Tag.wire input.platform), some input.isSubscription,
      some input.isActive, input.cost.filter Binary64.isFinite, input.nextPayment.map Date.text,
      some (Tag.wire input.cycle), some (Tag.wire input.method), [], none, none, ())
    (by decide) ?_
  rcases input with ⟨name, platform, isSubscription, isActive, cost, cycle, nextPayment, method⟩
  cases cost with
  | none =>
    cases nextPayment <;>
      simp only [said, Input.text, Input.flag, Input.tag, Input.date, Input.given,
        List.cons_append, List.nil_append, List.append_nil]
    · exact ⟨rfl, rfl, rfl, rfl, rfl, rfl, rfl, rfl, rfl, rfl, rfl, rfl, trivial⟩
    · exact ⟨rfl, rfl, rfl, rfl, rfl, rfl, rfl, rfl, rfl, rfl, rfl, rfl, trivial⟩
  | some cost =>
    cases nextPayment <;>
      simp only [said, Input.text, Input.flag, Input.tag, Input.date, Input.amount, Input.given,
        List.cons_append, List.nil_append, List.append_nil]
    · exact ⟨rfl, rfl, rfl, rfl, rfl, hcost cost, rfl, rfl, rfl, rfl, rfl, rfl, trivial⟩
    · exact ⟨rfl, rfl, rfl, rfl, rfl, hcost cost, rfl, rfl, rfl, rfl, rfl, rfl, trivial⟩

end NewStorefront

end

/-! ## What is shown -/

/-- A place is shown as it was asked for. -/
structure Place.Echoes (place : Place) (id : String) (input : NewPlace) : Prop where
  identifier : place.id = id
  name : place.name = input.name
  kind : place.kind = input.kind
  /-- Coordinates are without the white space around them, and absent if nothing else is there. -/
  coordinates : place.coordinates.map MapPoint.raw = Text.trimToSome input.coordinates
  color : place.color = input.color

/-- What stands in a place does not matter for that. -/
theorem Place.Echoes.withCompartments {place : Place} {id : String} {input : NewPlace}
    (h : place.Echoes id input) (compartments : List Compartment) :
    Place.Echoes { place with compartments } id input :=
  ⟨h.identifier, h.name, h.kind, h.coordinates, h.color⟩

/-- A compartment is shown as it was asked for. One without a colour of its own may have that of its
place. -/
structure Compartment.Echoes (compartment : Compartment) (id : String) (input : NewCompartment) :
    Prop where
  identifier : compartment.id = id
  name : compartment.name = input.name
  kind : compartment.kind = input.kind
  placeId : compartment.placeId = input.placeId
  notes : compartment.notes = Text.trimToSome input.description
  color : ∀ color, input.color = some color → compartment.color = some color

/-- A storefront is shown as it was asked for. -/
structure Storefront.Echoes (storefront : Storefront) (id : String) (input : NewStorefront) :
    Prop where
  identifier : storefront.id = id
  name : storefront.name = input.name
  platform : storefront.platform = input.platform
  isSubscription : storefront.billing.isSubscription = input.isSubscription
  isActive : storefront.isActive = input.isActive
  cost : storefront.billing.cost = input.cost
  cycle : storefront.billing.cycle = input.cycle
  nextPayment : storefront.billing.nextPayment = input.nextPayment
  method : storefront.billing.method = input.method

section

variable (id : String)

theorem NewPlace.echoes_ofReported (input : NewPlace) :
    (Place.ofReported (input.echoed id)).notices = [] ∧
      (Place.ofReported (input.echoed id)).value.Echoes id input := by
  have hkind := Tag.take_wire PlaceKind.house input.kind
  have hcolor := Tag.takeOptional_map_wire input.color
  simp only [Place.ofReported, echoed, hkind, hcolor, Noted.notices_bind, Noted.value_bind,
    Noted.notices_pure, Noted.value_pure, List.append_nil, true_and]
  refine ⟨rfl, rfl, rfl, ?_, rfl⟩
  rw [MapPoint.ofReported, Option.map_map]
  exact Option.map_id'

theorem NewCompartment.tagNotices_echoed (input : NewCompartment) :
    (input.echoed id).tagNotices = [] := by
  have hkind := Tag.take_wire CompartmentKind.shelf input.kind
  have hcolor := Tag.takeOptional_map_wire input.color
  simp only [Reported.Compartment.tagNotices, echoed, hkind, hcolor, List.append_nil]

theorem NewCompartment.echoes_ofReported (input : NewCompartment) {place : Place}
    (hplace : place.id = input.placeId) (claims : Claims) :
    (Compartment.ofReported place claims (input.echoed id)).value.1.Echoes id input := by
  have hkind := Tag.take_wire CompartmentKind.shelf input.kind
  have hcolor := Tag.takeOptional_map_wire input.color
  simp only [Compartment.ofReported, compartmentGames, echoed, hkind, hcolor, Noted.value_bind,
    Noted.value_pure]
  refine ⟨rfl, rfl, rfl, hplace, rfl, fun color hgiven => ?_⟩
  rw [hgiven]
  rfl

theorem NewStorefront.echoes_ofReported (input : NewStorefront)
    (hfinite : ∀ cost ∈ input.cost, cost.isFinite = true) (claims : Claims) :
    (Storefront.ofReported claims (input.echoed id)).notices = [] ∧
      (Storefront.ofReported claims (input.echoed id)).value.1.Echoes id input := by
  have hplatform := Tag.take_wire Platform.steam input.platform
  have hcycle := Tag.take_wire BillingCycle.monthly input.cycle
  have hmethod := Tag.take_wire PaymentMethod.generic input.method
  simp only [Storefront.ofReported, echoed, claimGames, hplatform, hcycle, hmethod,
    Noted.notices_bind, Noted.value_bind, Noted.notices_pure, Noted.value_pure, List.append_nil,
    true_and]
  refine ⟨rfl, rfl, rfl, rfl, rfl, ?_, rfl, ?_, rfl⟩
  · cases hcost : input.cost with
    | none => rfl
    | some cost => exact if_pos (hfinite cost hcost)
  · -- a day is read as it was written
    cases hdate : input.nextPayment with
    | none => rfl
    | some date => exact date.ofText?_text

end

/-! ## Batches -/

/-- The places that come back. -/
def echoedPlaces (places : List (String × NewPlace)) : List Reported.Place :=
  places.map fun place => place.2.echoed place.1

/-- The compartments that come back. -/
def echoedCompartments (compartments : List (String × NewCompartment)) :
    List Reported.Compartment :=
  compartments.map fun compartment => compartment.2.echoed compartment.1

section

variable {places : List (String × NewPlace)} {compartments : List (String × NewCompartment)}

theorem ids_echoedPlaces :
    (echoedPlaces places).map Reported.Place.id = places.map Prod.fst := List.map_map

/-- The compartments that come back stand beside the places. -/
theorem listings_echoed :
    listings (echoedPlaces places) (echoedCompartments compartments) =
      compartments.map fun compartment => ⟨compartment.2.echoed compartment.1, none⟩ := by
  rw [listings_beside, echoedCompartments, List.map_map]
  · rfl
  · intro raw hraw
    rcases List.mem_map.mp hraw with ⟨place, -, rfl⟩
    rfl

theorem ids_listings_echoed :
    (listings (echoedPlaces places) (echoedCompartments compartments)).map Listing.id =
      compartments.map Prod.fst := by
  rw [listings_echoed, List.map_map]
  rfl

/-- They list no games. -/
theorem games_listings_echoed :
    ∀ listing ∈ listings (echoedPlaces places) (echoedCompartments compartments),
      listing.raw.games = none := by
  rw [listings_echoed]
  intro listing hmem
  rcases List.mem_map.mp hmem with ⟨compartment, -, rfl⟩
  rfl

/-- Each names one of the places if it was asked for there. -/
theorem placed_listings_echoed
    (hplaced : ∀ compartment ∈ compartments, compartment.2.placeId ∈ places.map Prod.fst) :
    ∀ listing ∈ listings (echoedPlaces places) (echoedCompartments compartments),
      ∃ id ∈ (echoedPlaces places).map Reported.Place.id, listing.placeId = some id := by
  rw [listings_echoed, ids_echoedPlaces]
  intro listing hmem
  rcases List.mem_map.mp hmem with ⟨compartment, hasked, rfl⟩
  exact ⟨compartment.2.placeId, hplaced compartment hasked, rfl⟩

/-- Nothing is dropped, and every text names a tag. -/
theorem notices_echoed (hplaces : (places.map Prod.fst).Nodup)
    (hplaced : ∀ compartment ∈ compartments, compartment.2.placeId ∈ places.map Prod.fst) :
    (takePlaces (echoedPlaces places) (echoedCompartments compartments) .none).notices = [] := by
  apply notices_eq_nil
  · exact (takePlaces_leaves_games games_listings_echoed .none).2
  · exact takePlaces_recordNotices_eq_nil (ids_echoedPlaces ▸ hplaces)
      (placed_listings_echoed hplaced) .none
  · apply takePlaces_tagNotices_eq_nil
    · intro raw hraw
      rcases List.mem_map.mp hraw with ⟨place, -, rfl⟩
      exact (place.2.echoes_ofReported place.1).1
    · rw [listings_echoed]
      intro listing hmem
      rcases List.mem_map.mp hmem with ⟨compartment, -, rfl⟩
      exact compartment.2.tagNotices_echoed compartment.1

/-- The places are taken in as they were asked for. -/
theorem places_echoed (hplaces : (places.map Prod.fst).Nodup)
    (hcompartments : (compartments.map Prod.fst).Nodup) :
    List.Forall₂ (fun asked shown => shown.Echoes asked.1 asked.2) places
      (takePlaces (echoedPlaces places) (echoedCompartments compartments)
        .none).value.1.places := by
  have hraws : ((echoedPlaces places).map Reported.Place.id).Nodup := ids_echoedPlaces ▸ hplaces
  have htaken := takePlaces_unlisted (ids_listings_echoed ▸ hcompartments)
    (@games_listings_echoed places compartments) .none
  rw [firstsAfter_eq_self hraws fun _ _ => List.not_mem_nil, echoedPlaces, List.map_map] at htaken
  rw [echoedPlaces, htaken, List.forall₂_map_right_iff]
  refine List.forall₂_same.mpr fun place _ => ?_
  exact (place.2.echoes_ofReported place.1).2.withCompartments _

/-- The compartments are taken in as they were asked for, each where it names its place. -/
theorem compartments_echoed (hcompartments : (compartments.map Prod.fst).Nodup)
    (hplaced : ∀ compartment ∈ compartments, compartment.2.placeId ∈ places.map Prod.fst) :
    List.Forall₂ (fun asked shown => shown.Echoes asked.1 asked.2) compartments
      (takePlaces (echoedPlaces places) (echoedCompartments compartments)
        .none).value.1.compartments := by
  have htaken := (takePlaces_took (echoedPlaces places) (echoedCompartments compartments) .none).1
  rw [takeCompartments_unlisted (keptIn_unlisted games_listings_echoed),
    keptIn_eq (ids_listings_echoed ▸ hcompartments)] at htaken
  rw [htaken, List.forall₂_map_right_iff]
  have hrecords := forall₂_placed (rosterOf_wellIndexed _) fun listing hmem => by
    rcases placed_listings_echoed hplaced listing hmem with ⟨id, hid, hplaceId⟩
    exact ⟨id, mem_rosterOf_ids.mpr hid, hplaceId⟩
  rw [listings_echoed, List.forall₂_map_left_iff] at hrecords
  rw [listings_echoed]
  refine hrecords.imp fun asked record hrecord => ?_
  rcases hrecord with ⟨hraw, hplaceId⟩
  rw [hraw]
  exact asked.2.echoes_ofReported asked.1 (Option.some.inj hplaceId).symm .none

end

/-! ## Payloads -/

/-- The payload in which new places come back with new compartments beside them. -/
def echoedBatch (places : List (String × NewPlace))
    (compartments : List (String × NewCompartment)) : Json :=
  .record
    [("physicalLocations", .list (places.map fun place => echoed place.1 place.2.encode)),
     ("sublocations", .list
       (compartments.map fun compartment => echoed compartment.1 compartment.2.encode))]

theorem read_echoedBatch (places : List (String × NewPlace))
    (compartments : List (String × NewCompartment)) :
    Reported.Batch.layout.read (echoedBatch places compartments) =
      .ok ⟨some (echoedPlaces places), some (echoedCompartments compartments)⟩ := by
  have hplaces : Decode.listOf Reported.Place.layout.read
      (.list (places.map fun place => echoed place.1 place.2.encode)) =
        .ok (echoedPlaces places) :=
    Backend.items_map (fun place : String × NewPlace => place.2.read_echoed place.1) places
  have hcompartments : Decode.listOf Reported.Compartment.layout.read
      (.list (compartments.map fun compartment => echoed compartment.1 compartment.2.encode)) =
        .ok (echoedCompartments compartments) :=
    Backend.items_map
      (fun compartment : String × NewCompartment => compartment.2.read_echoed compartment.1)
      compartments
  exact Reported.Batch.layout.read_of_finds
    (some (echoedPlaces places), some (echoedCompartments compartments), ()) (by decide)
    ⟨nullable_of_ok (by simp) hplaces, nullable_of_ok (by simp) hcompartments, trivial⟩

/-- A new place that comes back alone is shown as it was asked for. -/
theorem NewPlace.shown (id : String) (input : NewPlace) :
    ∃ place, Place.ofPayload (GameShelf.echoed id input.encode) = .ok ⟨place, []⟩ ∧
      place.Echoes id input := by
  have hnotices := @notices_echoed [(id, input)] [] (List.nodup_singleton id)
    fun _ hmem => absurd hmem List.not_mem_nil
  have hplaces := @places_echoed [(id, input)] [] (List.nodup_singleton id) List.nodup_nil
  simp only [echoedPlaces, echoedCompartments, List.map_cons, List.map_nil] at hnotices hplaces
  -- the batch has this place alone
  rcases List.forall₂_cons_left_iff.mp hplaces with ⟨place, rest, hechoes, -, htaken⟩
  rw [takePlaces_alone] at htaken
  refine ⟨place, ?_, hechoes⟩
  rw [Place.isMadeFrom.of_read (input.read_echoed id), Place.alone, hnotices,
    (List.cons.inj htaken).1]

/-- A new storefront that comes back alone is shown as it was asked for, if its cost is finite. -/
theorem NewStorefront.shown (id : String) (input : NewStorefront)
    (hfinite : ∀ cost ∈ input.cost, cost.isFinite = true) :
    ∃ storefront,
      Storefront.ofPayload (GameShelf.echoed id input.encode) = .ok ⟨storefront, []⟩ ∧
        storefront.Echoes id input := by
  rcases input.echoes_ofReported id hfinite .none with ⟨hnotices, hechoes⟩
  refine ⟨_, ?_, hechoes⟩
  rw [Storefront.isMadeFrom.of_read (input.read_echoed id)]
  simp only [hnotices]

/-- Changes that come back with an identifier are shown as they were asked for, and there is nothing
to notice about them: a place or a storefront alone, and compartments in a batch with their
places. -/
theorem inputs_shown :
    (∀ (id : String) (input : NewPlace), ∃ place,
      Place.ofPayload (echoed id input.encode) = .ok ⟨place, []⟩ ∧ place.Echoes id input) ∧
    (∀ (id : String) (input : NewStorefront), (∀ cost ∈ input.cost, cost.isFinite = true) →
      ∃ storefront, Storefront.ofPayload (echoed id input.encode) = .ok ⟨storefront, []⟩ ∧
        storefront.Echoes id input) ∧
    ∀ (places : List (String × NewPlace)) (compartments : List (String × NewCompartment)),
      (places.map Prod.fst).Nodup → (compartments.map Prod.fst).Nodup →
      (∀ compartment ∈ compartments, compartment.2.placeId ∈ places.map Prod.fst) →
      ∃ batch, Batch.ofPayload (echoedBatch places compartments) = .ok ⟨batch, []⟩ ∧
        List.Forall₂ (fun asked shown => shown.Echoes asked.1 asked.2) places batch.places ∧
        List.Forall₂ (fun asked shown => shown.Echoes asked.1 asked.2) compartments
          batch.compartments := by
  refine ⟨NewPlace.shown, NewStorefront.shown, ?_⟩
  intro places compartments hplaces hcompartments hplaced
  have hbatch := Batch.ofPayload_of_read (read_echoedBatch places compartments)
  simp only [Option.getD_some, notices_echoed hplaces hplaced] at hbatch
  exact ⟨_, hbatch, places_echoed hplaces hcompartments,
    compartments_echoed hcompartments hplaced⟩

/-- A garage with white space around its coordinates. -/
def garage : NewPlace where
  name := " Garage "
  kind := .storageUnit
  coordinates := some " 48.2, 16.37\n"
  color := some .gold

/-- A box in the garage without a colour and with blank notes. -/
def boxInGarage : NewCompartment where
  name := "Box"
  kind := .box
  placeId := "g"
  description := some "  "
  color := none

/-- A storefront that was last paid on the Ides of March, long ago. -/
def ancientStorefront : NewStorefront where
  name := "Forum"
  platform := .playstationNetwork
  isSubscription := true
  isActive := false
  cost := some (.finite true 5 1074)
  cycle := .quarterly
  nextPayment := some ⟨-43, 3, 15, by decide⟩
  method := .applePay

theorem garage_inputs_shown :
    (∀ cost ∈ ancientStorefront.cost, cost.isFinite = true) ∧
      ([("h", garage), ("g", garage)].map Prod.fst).Nodup ∧
      ([("b", boxInGarage), ("a", boxInGarage)].map Prod.fst).Nodup ∧
      (∀ compartment ∈ [("b", boxInGarage), ("a", boxInGarage)],
        compartment.2.placeId ∈ [("h", garage), ("g", garage)].map Prod.fst) ∧
      (∃ place, Place.ofPayload (echoed "p" garage.encode) = .ok ⟨place, []⟩ ∧
        place.Echoes "p" garage) ∧
      (∃ storefront,
        Storefront.ofPayload (echoed "s" ancientStorefront.encode) = .ok ⟨storefront, []⟩ ∧
          storefront.Echoes "s" ancientStorefront) ∧
      ∃ batch, Batch.ofPayload (echoedBatch [("h", garage), ("g", garage)]
          [("b", boxInGarage), ("a", boxInGarage)]) = .ok ⟨batch, []⟩ ∧
        List.Forall₂ (fun asked shown => shown.Echoes asked.1 asked.2)
          [("h", garage), ("g", garage)] batch.places ∧
        List.Forall₂ (fun asked shown => shown.Echoes asked.1 asked.2)
          [("b", boxInGarage), ("a", boxInGarage)] batch.compartments := by
  have hfinite : ∀ cost ∈ ancientStorefront.cost, cost.isFinite = true := by
    intro cost hcost
    obtain rfl := Option.some.inj hcost
    rfl
  have hplaces : ([("h", garage), ("g", garage)].map Prod.fst).Nodup := by decide
  have hcompartments : ([("b", boxInGarage), ("a", boxInGarage)].map Prod.fst).Nodup := by decide
  have hplaced : ∀ compartment ∈ [("b", boxInGarage), ("a", boxInGarage)],
      compartment.2.placeId ∈ [("h", garage), ("g", garage)].map Prod.fst := by decide
  rcases inputs_shown with ⟨hplace, hstorefront, hbatch⟩
  exact ⟨hfinite, hplaces, hcompartments, hplaced, hplace "p" garage,
    hstorefront "s" ancientStorefront hfinite, hbatch _ _ hplaces hcompartments hplaced⟩

end GameShelf
