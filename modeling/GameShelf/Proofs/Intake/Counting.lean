import GameShelf.Proofs.Intake.Ownership
import GameShelf.Proofs.Library.Census

/-!
# What a library counts

Where a payload has all places and compartments, the counts of the library say how many games it
mentions under kept records, each once, and how many its compartments without lists are said to
store. They are exact, or there are none: the program stops if and only if all these games are more
than a word can count.

* `Reported.Library.countAll`, `Reported.Library.count`: the exact count of all games, and of those
  with some owners.
* `itemsOf_kept`: what places and storefronts store comes to it.
* `Library.CountedBy`: what all counts of a library say.
* `Library.ofPayload_counted`: they say it, or the program stops.
-/

namespace GameShelf

/-! ## Exact counts -/

/-- Whether the owner of a game is a compartment. -/
def Owner.isPhysical : Owner → Bool
  | .compartment .. => true
  | .storefront _ => false

/-- Whether the owner of a game is a compartment of a place. -/
def Owner.isInPlace (id : String) : Owner → Bool
  | .compartment place _ => place == id
  | .storefront _ => false

/-- A compartment as the owner of its games. -/
def Compartment.owner (compartment : Compartment) : Owner :=
  .compartment compartment.placeId compartment.id

namespace Reported

/-- How many games a compartment without a list of them is said to store. -/
def Compartment.unlisted (raw : Compartment) : ℕ :=
  match raw.games with
  | some _ => 0
  | none => (raw.storedItems.getD 0).toNat

/-- How many games there are in all: the different ones that kept records mention, and those that
kept compartments without a list are said to store. -/
def Library.countAll (raw : Library) : ℕ :=
  (raw.mentions.map Mention.id).dedup.length +
    (raw.keptCompartments.map fun record => record.2.unlisted).sum

/-- How many games are with some owners: those that kept records mention first there, and those
that kept compartments without a list are said to store. -/
def Library.count (raw : Library) (counts : Owner → Bool) : ℕ :=
  ((firstsAfter Mention.id [] raw.mentions).filter fun mention => counts mention.owner).length +
    ((raw.keptCompartments.filter fun record => counts (.compartment record.1 record.2.id)).map
      fun record => record.2.unlisted).sum

theorem Library.count_true (raw : Library) : raw.count (fun _ => true) = raw.countAll := by
  rw [count, List.filter_true, List.filter_true, length_firstsAfter, countAll]

/-- Some owners do not have more games than all. -/
theorem Library.count_le (raw : Library) (counts : Owner → Bool) :
    raw.count counts ≤ raw.countAll := by
  rw [← raw.count_true, count, count, List.filter_true, List.filter_true]
  have hmentions := List.length_filter_le (fun mention : Mention => counts mention.owner)
    (firstsAfter Mention.id [] raw.mentions)
  have hunlisted := (List.filter_sublist (l := raw.keptCompartments)
    (p := fun record => counts (.compartment record.1 record.2.id))).map
      fun record => record.2.unlisted
  exact Nat.add_le_add hmentions (hunlisted.sum_le_sum fun _ _ => Nat.zero_le _)

/-- How many games a compartment lists or is said to store. -/
def Compartment.stored (raw : Compartment) : ℕ :=
  (raw.games.getD []).length + raw.unlisted

/-- The kept records are some of those that are listed. -/
theorem Library.keptCompartments_sublist (raw : Library) :
    (raw.keptCompartments.map Prod.snd).Sublist
      ((listings (raw.places.getD []) (raw.compartments.getD [])).map Listing.raw) := by
  have hplaced (place? : Listing → Option String) (list : List Listing) :
      ((list.filterMap fun listing => (place? listing).map fun id => (id, listing.raw)).map
        Prod.snd).Sublist (list.map Listing.raw) := by
    induction list with
    | nil => exact List.Sublist.refl _
    | cons listing rest ih =>
      rw [List.filterMap_cons]
      cases place? listing with
      | none => exact ih.cons _
      | some id => exact ih.cons_cons _
  exact (hplaced _ _).trans ((firstsAfter_sublist Listing.id [] _).map Listing.raw)

/-- There are no more games than all records together list or are said to store. -/
theorem Library.countAll_le (raw : Library) :
    raw.countAll ≤
      ((listings (raw.places.getD []) (raw.compartments.getD [])).map fun listing =>
          listing.raw.stored).sum +
        ((raw.storefronts.getD []).map fun storefront => storefront.games.length).sum := by
  have hdistinct : (raw.mentions.map Mention.id).dedup.length ≤ raw.mentions.length :=
    (List.dedup_sublist _).length_le.trans (List.length_map _).le
  have hmentions : raw.mentions.length =
      (raw.keptCompartments.map fun record => (record.2.games.getD []).length).sum +
        ((keptStorefronts (raw.storefronts.getD [])).map fun storefront =>
          storefront.games.length).sum := by
    simp only [mentions, List.length_append, List.length_flatMap, mentionsOf, Mention.ofList,
      List.length_map]
  have hsplit : (raw.keptCompartments.map fun record => record.2.stored).sum =
      (raw.keptCompartments.map fun record => (record.2.games.getD []).length).sum +
        (raw.keptCompartments.map fun record => record.2.unlisted).sum :=
    List.sum_map_add
  have hkept := (raw.keptCompartments_sublist.map Compartment.stored).sum_le_sum
    fun _ _ => Nat.zero_le _
  rw [List.map_map, List.map_map] at hkept
  have hfronts := ((firstsAfter_sublist Storefront.id [] (raw.storefronts.getD [])).map
    fun storefront => storefront.games.length).sum_le_sum fun _ _ => Nat.zero_le _
  rw [countAll]
  simp only [Function.comp_def, keptStorefronts] at *
  omega

end Reported

/-! ## What records come to -/

section

variable {α β : Type}

/-- Where the parts of a member pass a test together, the parts that pass are those of the members
that do. -/
theorem filter_flatMap_of_forall {list : List α} {parts : α → List β} {p : α → Bool} {q : β → Bool}
    (h : ∀ a ∈ list, ∀ b ∈ parts a, q b = p a) :
    (list.flatMap parts).filter q = (list.filter p).flatMap parts := by
  induction list with
  | nil => rfl
  | cons a rest ih =>
    rcases List.forall_mem_cons.mp h with ⟨hfirst, hrest⟩
    rw [List.flatMap_cons, List.filter_append, ih hrest, List.filter_cons]
    cases hp : p a with
    | true =>
      have hall : (parts a).filter q = parts a :=
        List.filter_eq_self.mpr fun b hb => (hfirst b hb).trans hp
      rw [hall, if_pos rfl, List.flatMap_cons]
    | false =>
      have hnone : (parts a).filter q = [] := by
        refine List.filter_eq_nil_iff.mpr fun b hb => ?_
        rw [hfirst b hb, hp]
        exact Bool.false_ne_true
      rw [hnone, if_neg Bool.false_ne_true, List.nil_append]

end

/-- A compartment stores the games of its list, and without one those that it is said to. -/
theorem Compartment.storedItems_ofReported (place : Place) (claims : Claims)
    (raw : Reported.Compartment) :
    (Compartment.ofReported place claims raw).value.1.storedItems =
      (Compartment.ofReported place claims raw).value.1.games.length + raw.unlisted := by
  simp only [Compartment.ofReported, compartmentGames, Reported.Compartment.unlisted]
  cases raw.games with
  | none => simp
  | some list => simp

/-- What a compartment has of its record: its place, its name, and what it stores. -/
structure Compartment.Keeps (record : Place × Reported.Compartment) (compartment : Compartment) :
    Prop where
  owner : compartment.owner = .compartment record.1.id record.2.id
  stored : compartment.storedItems = compartment.games.length + record.2.unlisted

theorem takeCompartments_keeps (claims : Claims) (kept : List (Place × Reported.Compartment)) :
    List.Forall₂ Compartment.Keeps kept (takeCompartments claims kept).value.1 :=
  forall₂_takeRecords
    (fun claims record => ⟨rfl, Compartment.storedItems_ofReported record.1 claims record.2⟩)
    claims kept

/-- Compartments store their games and what is not in lists. -/
theorem sum_keeps {kept : List (Place × Reported.Compartment)} {compartments : List Compartment}
    (h : List.Forall₂ Compartment.Keeps kept compartments) (counts : Owner → Bool) :
    ((compartments.filter fun c => counts c.owner).map Compartment.storedItems).sum =
      ((compartments.filter fun c => counts c.owner).flatMap Compartment.games).length +
        ((kept.filter fun record => counts (.compartment record.1.id record.2.id)).map
          fun record => record.2.unlisted).sum := by
  induction h with
  | nil => rfl
  | @cons record c kept rest hkeeps _ ih =>
    -- a compartment counts if and only if its record does
    rw [List.filter_cons, List.filter_cons, ← hkeeps.owner]
    cases counts c.owner with
    | false => exact ih
    | true =>
      rw [if_pos rfl, if_pos rfl, List.map_cons, List.sum_cons, ih, hkeeps.stored,
        List.flatMap_cons, List.length_append, List.map_cons, List.sum_cons]
      omega

/-! ## What a payload comes to -/

section

variable (raw : Reported.Library)

/-- The games of some owners are in the compartments and storefronts that they are. -/
theorem length_games (counts : Owner → Bool) :
    (((batchOf raw).value.1.compartments.filter fun c => counts c.owner).flatMap
        Compartment.games).length +
      (((frontsOf raw).value.1.filter fun f => counts (.storefront f.id)).flatMap
        Storefront.games).length =
      ((firstsAfter Mention.id [] raw.mentions).filter
        fun mention => counts mention.owner).length := by
  have hinside : ∀ c ∈ (batchOf raw).value.1.compartments, ∀ game ∈ c.games,
      counts game.owner = counts c.owner := by
    intro c hc game hgame
    rw [takePlaces_compartment_owner hc hgame]
    rfl
  have hfronts : ∀ f ∈ (frontsOf raw).value.1, ∀ game ∈ f.games,
      counts game.owner = counts (.storefront f.id) := by
    intro f hf game hgame
    rw [takeStorefronts_owner hf hgame]
  -- the games of all lists one after the other are those of the first mentions
  have hgames := (takeMentions_mentions raw).1
  rw [takeMentions_games, Claims.games_none] at hgames
  have hfiltered := congrArg (fun games => (games.filter fun game => counts game.owner).length)
    hgames
  rw [List.filter_append, List.length_append, List.filter_map, List.length_map] at hfiltered
  rw [← filter_flatMap_of_forall hinside, ← filter_flatMap_of_forall hfronts]
  exact hfiltered

/-- What the compartments and storefronts of some owners store is their exact count. -/
theorem sum_kept (counts : Owner → Bool) :
    (((batchOf raw).value.1.compartments.filter fun c => counts c.owner).map
        Compartment.storedItems).sum +
      (((frontsOf raw).value.1.filter fun f => counts (.storefront f.id)).map
        Storefront.storedItems).sum =
      raw.count counts := by
  have hkeeps := takeCompartments_keeps .none
    (keptIn (raw.places.getD []) (raw.compartments.getD []))
  rw [← (takePlaces_took (raw.places.getD []) (raw.compartments.getD []) .none).1] at hkeeps
  -- the exact count tells the kept records by identifiers, without the places themselves
  have hunlisted : ((keptIn (raw.places.getD []) (raw.compartments.getD [])).filter
      fun record => counts (.compartment record.1.id record.2.id)).map
        (fun record => record.2.unlisted) =
      (raw.keptCompartments.filter fun record => counts (.compartment record.1 record.2.id)).map
        fun record => record.2.unlisted := by
    rw [← keptIn_eq_keptCompartments, List.filter_map, List.map_map]
    rfl
  have hfronts : (((frontsOf raw).value.1.filter fun f => counts (.storefront f.id)).map
      Storefront.storedItems).sum =
        (((frontsOf raw).value.1.filter fun f => counts (.storefront f.id)).flatMap
          Storefront.games).length :=
    (List.length_flatMap ..).symm
  rw [hfronts, batchOf, sum_keeps hkeeps, hunlisted, Reported.Library.count,
    ← length_games raw counts]
  exact Nat.add_right_comm _ _ _

/-- Storefronts do not count if their owners do not. -/
theorem sum_compartments {counts : Owner → Bool} (h : ∀ id, counts (.storefront id) = false) :
    (((batchOf raw).value.1.compartments.filter fun c => counts c.owner).map
      Compartment.storedItems).sum = raw.count counts := by
  have hnone : ((frontsOf raw).value.1.filter fun f => counts (.storefront f.id)) = [] :=
    List.filter_eq_nil_iff.mpr fun f _ => by simp [h]
  rw [← sum_kept, hnone]
  rfl

/-- Place by place, the compartments are those of the batch. -/
theorem batchOf_perm :
    ((batchOf raw).value.1.places.flatMap Place.compartments).Perm
      (batchOf raw).value.1.compartments :=
  takePlaces_flatMap_perm ..

/-- The places that pass a test store what the compartments in them do. -/
theorem sum_places_filter (inside : String → Bool) :
    (((batchOf raw).value.1.places.filter fun place => inside place.id).map
        Place.exactItems).sum =
      (((batchOf raw).value.1.compartments.filter fun c => inside c.placeId).map
        Compartment.storedItems).sum := by
  have hinside : ∀ place ∈ (batchOf raw).value.1.places, ∀ c ∈ place.compartments,
      inside c.placeId = inside place.id := by
    intro place hplace c hc
    rw [takePlaces_inside hplace] at hc
    rw [beq_iff_eq.mp (List.mem_filter.mp hc).2]
  rw [← (((batchOf_perm raw).filter _).map _).sum_eq, filter_flatMap_of_forall hinside,
    List.map_flatMap, List.flatMap_def, List.sum_flatten, List.map_map]
  rfl

/-- All places together store what all compartments do. -/
theorem sum_places :
    ((batchOf raw).value.1.places.map Place.exactItems).sum = raw.count Owner.isPhysical := by
  have hsame := sum_places_filter raw fun _ => true
  have hkept : _ = raw.count Owner.isPhysical := sum_compartments raw fun _ => rfl
  have hall : ((batchOf raw).value.1.compartments.filter fun c => c.owner.isPhysical) =
      (batchOf raw).value.1.compartments := List.filter_true _
  rw [List.filter_true, List.filter_true] at hsame
  rw [hsame, ← hkept, hall]

/-- What the places and storefronts of some identifiers store is the exact count of these
locations. -/
theorem itemsOf_kept (inside : String → Bool) :
    itemsOf ((batchOf raw).value.1.places.filter fun place => inside place.id)
        ((frontsOf raw).value.1.filter fun f => inside f.id) =
      raw.count fun owner => inside owner.location := by
  rw [itemsOf, sum_places_filter]
  exact sum_kept raw fun owner => inside owner.location

theorem itemsOf_all :
    itemsOf (batchOf raw).value.1.places (frontsOf raw).value.1 = raw.countAll := by
  have hall := itemsOf_kept raw fun _ => true
  rw [List.filter_true, List.filter_true] at hall
  exact hall.trans raw.count_true

end

/-! ## The counts of a library -/

/-- What the counts of a library say. -/
structure Library.CountedBy (library : Library) (raw : Reported.Library) : Prop where
  source : library.census.source = .recomputed
  /-- In all there are the different games that are mentioned, and those that are not in lists. -/
  total : library.census.items.total = (raw.mentions.map Mention.id).dedup.length +
    (raw.keptCompartments.map fun record => record.2.unlisted).sum
  physical : library.census.items.physical = raw.count Owner.isPhysical
  digital : library.census.items.digital = raw.count fun owner => !owner.isPhysical
  /-- The locations with a count are the places and the storefronts. -/
  locations : ∀ id, id ∈ library.census.items.byLocation.map Prod.fst ↔
    id ∈ library.places.map Place.id ∨ id ∈ library.storefronts.map Storefront.id
  byLocation : ∀ entry ∈ library.census.items.byLocation,
    entry.2 = raw.count fun owner => owner.location == entry.1
  stored : ∀ place ∈ library.places,
    place.storedItems? = some (raw.count (Owner.isInPlace place.id))

/-- The counts of what a payload comes to, if a word can hold them. -/
theorem countedBy_unlimited {raw : Reported.Library} (h : raw.countAll < UInt64.size) :
    Library.CountedBy
      { places := (batchOf raw).value.1.places
        storefronts := (frontsOf raw).value.1
        census := Census.unlimited (batchOf raw).value.1.places (frontsOf raw).value.1 } raw := by
  constructor
  case source => rfl
  case total => exact itemsOf_all raw
  case physical => exact sum_places raw
  case digital =>
    have hkept := sum_kept raw fun owner => !owner.isPhysical
    have hnone : ((batchOf raw).value.1.compartments.filter fun c => !c.owner.isPhysical) = [] :=
      List.filter_false _
    have hall : ((frontsOf raw).value.1.filter fun f => !(Owner.storefront f.id).isPhysical) =
        (frontsOf raw).value.1 := List.filter_true _
    rw [hnone, hall, List.map_nil, List.sum_nil, Nat.zero_add] at hkept
    exact hkept
  case locations => exact fun id => Census.mem_keys_byLocation
  case byLocation =>
    intro entry hentry
    rw [Census.entry_byLocation hentry]
    exact itemsOf_kept raw fun id => id == entry.1
  case stored =>
    intro place hplace
    have hkept : _ = raw.count (Owner.isInPlace place.id) := sum_compartments raw fun _ => rfl
    have hexact : place.exactItems = raw.count (Owner.isInPlace place.id) := by
      rw [Place.exactItems, takePlaces_inside hplace]
      exact hkept
    rw [place.storedItems?_eq, hexact]
    -- a place does not have more games than all
    exact word?_of_lt (lt_of_le_of_lt (raw.count_le _) h)

/-- What a payload of a library comes to. -/
theorem Library.ofPayload_of_read {payload : Json} {raw : Reported.Library}
    (h : Reported.Library.layout.read payload = .ok raw) :
    Library.ofPayload payload =
      .ok ((censusFor raw (batchOf raw).value.1.places (frontsOf raw).value.1).map fun census =>
        ⟨{ places := (batchOf raw).value.1.places, storefronts := (frontsOf raw).value.1, census },
          (batchOf raw).notices ++ (frontsOf raw).notices⟩) := by
  rw [Library.isMadeFrom.of_read h, Library.ofReported?_eq]

/-- The counts for a library with all places and compartments are its own. -/
theorem censusFor_of_isSome {raw : Reported.Library} (hplaces : raw.places.isSome = true)
    (hcompartments : raw.compartments.isSome = true) (places : List Place)
    (storefronts : List Storefront) :
    censusFor raw places storefronts = Census.ofLocations? places storefronts := by
  rw [censusFor, hplaces, hcompartments, Bool.and_self, if_pos rfl]

section

variable {payload : Json} {raw : Reported.Library}
  (h : Reported.Library.layout.read payload = .ok raw) (hplaces : raw.places.isSome = true)
  (hcompartments : raw.compartments.isSome = true)

include h hplaces hcompartments

/-- A library is there with its exact counts if all its games fit into a word. -/
theorem Library.ofPayload_of_fits (hfits : raw.countAll < UInt64.size) :
    ∃ noted, Library.ofPayload payload = .ok (some noted) ∧ noted.value.CountedBy raw := by
  have hcounted := countedBy_unlimited hfits
  rw [← itemsOf_all] at hfits
  rw [Library.ofPayload_of_read h, censusFor_of_isSome hplaces hcompartments,
    Census.ofLocations?_of_fits hfits]
  exact ⟨_, rfl, hcounted⟩

/-- It is not there if they do not. -/
theorem Library.ofPayload_of_outgrown (houtgrown : UInt64.size ≤ raw.countAll) :
    Library.ofPayload payload = .ok none := by
  rw [← itemsOf_all] at houtgrown
  rw [Library.ofPayload_of_read h, censusFor_of_isSome hplaces hcompartments,
    Census.ofLocations?_of_outgrown houtgrown]
  rfl

end

/-- A payload with all places and compartments makes a library that counts them exactly, as long as
all their games fit into a word. If they do not, the program stops while it counts. -/
theorem Library.ofPayload_counted {payload : Json} {raw : Reported.Library}
    (h : Reported.Library.layout.read payload = .ok raw) (hplaces : raw.places.isSome = true)
    (hcompartments : raw.compartments.isSome = true) :
    (raw.countAll < UInt64.size →
      ∃ noted, Library.ofPayload payload = .ok (some noted) ∧ noted.value.CountedBy raw) ∧
    (UInt64.size ≤ raw.countAll → Library.ofPayload payload = .ok none) := by
  exact ⟨ofPayload_of_fits h hplaces hcompartments, ofPayload_of_outgrown h hplaces hcompartments⟩

/-- A payload with games in a list that a storefront has too, and with games in no list. -/
def partlyListed : Json :=
  let game (id name : String) : Json := .record [("id", .text id), ("name", .text name)]
  .record
    [("digitalLocations", .list
      [.record
        [("id", .text "d"), ("items", .list [game "h" "Hex", game "i" "Ingenious"]),
         ("name", .text "Store")]]),
     ("physicalLocations", .list [.record [("id", .text "p"), ("name", .text "Home")]]),
     ("sublocations", .list
      [.record
        [("id", .text "a"), ("items", .list [game "g" "Go", game "h" "Hex"]),
         ("name", .text "Shelf"), ("parentLocationId", .text "p")],
       .record
        [("id", .text "b"), ("name", .text "Box"), ("parentLocationId", .text "p"),
         ("storedItems", .text "4")]])]

theorem Library.partlyListed_counted :
    ∃ noted raw, Reported.Library.layout.read partlyListed = .ok raw ∧
      raw.places.isSome = true ∧ raw.compartments.isSome = true ∧
      raw.countAll < UInt64.size ∧ Library.ofPayload partlyListed = .ok (some noted) ∧
      noted.value.CountedBy raw ∧
      noted.value.census.items =
        { physical := 6, digital := 1, total := 7, byLocation := [("d", 1), ("p", 6)] } := by
  obtain ⟨raw, hread⟩ : ∃ raw, Reported.Library.layout.read partlyListed = .ok raw := ⟨_, rfl⟩
  have hplaces : raw.places.isSome = true := by
    obtain rfl := Except.ok.inj hread
    rfl
  have hcompartments : raw.compartments.isSome = true := by
    obtain rfl := Except.ok.inj hread
    rfl
  have hfits : raw.countAll < UInt64.size := by
    obtain rfl := Except.ok.inj hread
    decide +kernel
  rcases (Library.ofPayload_counted hread hplaces hcompartments).1 hfits with
    ⟨noted, hnoted, hcounted⟩
  have hitems : noted.value.census.items =
      { physical := 6, digital := 1, total := 7, byLocation := [("d", 1), ("p", 6)] } := by
    obtain rfl := Option.some.inj (Except.ok.inj hnoted)
    rfl
  exact ⟨noted, raw, hread, hplaces, hcompartments, hfits, hnoted, hcounted, hitems⟩

/-- A payload of two compartments that are said to store half of all words each. -/
def overfull : Json :=
  let half (id : String) : Json := .record
    [("id", .text id), ("name", .text "Box"), ("parentLocationId", .text "p"),
     ("storedItems", .number (.integer 9223372036854775808))]
  .record
    [("physicalLocations", .list [.record [("id", .text "p"), ("name", .text "Home")]]),
     ("sublocations", .list [half "a", half "b"])]

/-- The program stops while it counts them, though the payload can be decoded. -/
theorem Library.overfull_stops :
    ∃ raw, Reported.Library.layout.read overfull = .ok raw ∧
      raw.places.isSome = true ∧ raw.compartments.isSome = true ∧
      raw.countAll = 18446744073709551616 ∧ Library.ofPayload overfull = .ok none := by
  obtain ⟨raw, hread⟩ : ∃ raw, Reported.Library.layout.read overfull = .ok raw := ⟨_, rfl⟩
  have hplaces : raw.places.isSome = true := by
    obtain rfl := Except.ok.inj hread
    rfl
  have hcompartments : raw.compartments.isSome = true := by
    obtain rfl := Except.ok.inj hread
    rfl
  have hcount : raw.countAll = 18446744073709551616 := by
    obtain rfl := Except.ok.inj hread
    decide +kernel
  exact ⟨raw, hread, hplaces, hcompartments, hcount,
    Library.ofPayload_of_outgrown hread hplaces hcompartments hcount.ge⟩

end GameShelf
