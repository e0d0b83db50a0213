import GameShelf.Proofs.Backend.Reported
import GameShelf.Proofs.Library.Census

/-!
# The whole library as it is reported

All that the backend keeps can be decoded from its data of the whole library. Amounts that are not
finite are missing there, and counts of 32 bits come through doubles unchanged.

* `Backend.Game.reported`, `Backend.Storefront.reported`, `Backend.Store.reported`: what the client
  decodes.
* `Compartment.reported_storedItems`: what a compartment is reported to store.
* `Store.itemCount?_eq`: what the backend counts, unless a word cannot hold it.
* `Store.read_library`: what is decoded of the whole library.
-/

namespace GameShelf

open Decode (nullable_of_ok)

namespace Backend

/-! ## Counts -/

/-- What a compartment stores is reported as it is. -/
theorem Compartment.reported_storedItems (compartment : Compartment) :
    compartment.reported.storedItems = some compartment.storedItems.toUInt64 := by
  have hlt : compartment.storedItems.toNat < Binary64.twoTo 53 :=
    Nat.lt_trans compartment.storedItems.toNat_lt (by decide)
  rw [reported, Decode.count?_integer (Nat.lt_trans hlt (by decide)),
    Decode.roundedCount_of_lt hlt, UInt64.ofNat_uInt32ToNat]

/-- How many games all compartments and storefronts hold, in whatever number. -/
def Store.exactItems (store : Store) : ℕ :=
  (store.compartments.map fun compartment => compartment.storedItems.toNat).sum +
    (store.storefronts.map fun storefront => storefront.games.length).sum

/-- The backend counts its games, unless a word cannot hold their number. -/
theorem Store.itemCount?_eq (store : Store) : store.itemCount? = word? store.exactItems := by
  rw [itemCount?, sumOf?_some (fun compartment : Compartment => compartment.storedItems.toNat),
    sumOf?_some (fun storefront : Storefront => storefront.games.length), exactItems, ← word?_add]
  rfl

/-- The data of the whole library is there if and only if a word can hold how many games it has. -/
theorem Store.libraryData?_eq_some_iff (store : Store) {data : Json} :
    store.libraryData? = some data ↔
      store.exactItems < UInt64.size ∧ store.libraryData store.exactItems = data := by
  rw [libraryData?, itemCount?_eq, Option.map_eq_some_iff]
  constructor
  · rintro ⟨items, hitems, rfl⟩
    rcases word?_eq_some_iff.mp hitems with ⟨hfits, rfl⟩
    exact ⟨hfits, rfl⟩
  · rintro ⟨hfits, rfl⟩
    exact ⟨_, word?_of_lt hfits, rfl⟩

theorem Store.libraryData?_eq_none_iff (store : Store) :
    store.libraryData? = none ↔ UInt64.size ≤ store.exactItems := by
  rw [libraryData?, itemCount?_eq, Option.map_eq_none_iff, word?, ite_eq_right_iff, ← Nat.not_lt]
  simp

/-! ## Internal spelling -/

/-- The keys of games and storefronts in internal spelling. -/
theorem toCamel_storefrontKeys :
    toCamel "platform_name" = "platformName" ∧ toCamel "acquired_date" = "acquiredDate" ∧
      toCamel "is_subscription" = "isSubscription" ∧ toCamel "is_active" = "isActive" ∧
      toCamel "monthly_cost" = "monthlyCost" ∧ toCamel "billing_cycle" = "billingCycle" ∧
      toCamel "next_payment_date" = "nextPaymentDate" ∧
      toCamel "payment_method" = "paymentMethod" ∧ toCamel "items" = "items" ∧
      toCamel "digital_locations" = "digitalLocations" ∧ toCamel "totals" = "totals" ∧
      toCamel "locations" = "locations" := by
  decide

/-- A game in internal spelling. -/
theorem Game.toInternal_toJson (game : Game) :
    game.toJson.toInternal = .record
      [("acquiredDate", Json.optionalText game.acquired),
       ("id", .text game.id),
       ("name", .text game.name),
       ("platformName", Json.optionalText game.platform)] := by
  rcases toCamel_keys with ⟨hid, hname, -⟩
  rcases toCamel_storefrontKeys with ⟨hplatform, hacquired, -⟩
  simp only [toJson, Json.toInternal, Json.recordOf, Json.mapKeys, Json.mapKeysFields, hid, hname,
    hplatform, hacquired, toInternal_optionalText, Json.ofFields, List.foldl_cons, List.foldl_nil,
    Json.insert, String.reduceLT, String.reduceEq, if_true, if_false]

theorem toInternal_optionalDouble (x : Option Binary64) :
    Json.mapKeys toCamel (Json.optional Json.double x) = Json.optional Json.double x := by
  cases x with
  | none => rfl
  | some x =>
    rw [Json.optional, Json.double]
    split
    · rfl
    · rfl

/-- A storefront in internal spelling. -/
theorem Storefront.toInternal_toJson (storefront : Storefront) :
    storefront.toJson.toInternal = .record
      [("billingCycle", .text storefront.cycle),
       ("createdAt", .text storefront.created),
       ("id", .text storefront.id),
       ("isActive", .flag storefront.isActive),
       ("isSubscription", .flag storefront.isSubscription),
       ("items", .list (storefront.games.map fun game => game.toJson.toInternal)),
       ("locationType", .text storefront.platform),
       ("monthlyCost", Json.optional Json.double storefront.cost),
       ("name", .text storefront.name),
       ("nextPaymentDate", Json.optionalText storefront.nextPayment),
       ("paymentMethod", .text storefront.method),
       ("updatedAt", .text storefront.updated)] := by
  rcases toCamel_keys with ⟨hid, hname, hkind, -, -, -, -, -, -, -, hcreated, hupdated⟩
  rcases toCamel_storefrontKeys with ⟨-, -, hsubscription, hactive, hcost, hcycle, hpayment,
    hmethod, hgames, -⟩
  simp only [toJson, Json.toInternal, Json.recordOf, Json.mapKeys, Json.mapKeysFields, hid, hname,
    hkind, hcreated, hupdated, hsubscription, hactive, hcost, hcycle, hpayment, hmethod, hgames,
    toInternal_optionalText, toInternal_optionalDouble, Json.mapKeysItems_eq_map, List.map_map,
    Json.ofFields, List.foldl_cons, List.foldl_nil, Json.insert, String.reduceLT, String.reduceEq,
    if_true, if_false]
  rfl

/-- The totals in internal spelling. -/
theorem Store.toInternal_totals (store : Store) (items : Nat) :
    (store.totals items).toInternal = .record
      [("items", .nat items), ("locations", .nat store.locationCount)] := by
  rcases toCamel_storefrontKeys with ⟨-, -, -, -, -, -, -, -, hitems, -, -, hlocations⟩
  simp only [totals, Json.toInternal, Json.recordOf, Json.nat, Json.mapKeys,
    Json.mapKeysFields, hitems, hlocations, Json.ofFields, List.foldl_cons, List.foldl_nil,
    Json.insert, String.reduceLT, String.reduceEq, if_true, if_false]

/-- The whole library in internal spelling. -/
theorem Store.toInternal_libraryData (store : Store) (items : Nat) :
    (store.libraryData items).toInternal = .record
      [("digitalLocations",
        .list (store.storefronts.map fun storefront => storefront.toJson.toInternal)),
       ("physicalLocations", .list (store.places.map fun place => place.toJson.toInternal)),
       ("sublocations",
        .list (store.compartments.map fun compartment => compartment.toJson.toInternal)),
       ("totals", (store.totals items).toInternal)] := by
  rcases toCamel_keys with ⟨-, -, -, -, -, -, -, -, hcompartments, hplaces, -, -⟩
  rcases toCamel_storefrontKeys with ⟨-, -, -, -, -, -, -, -, -, hstorefronts, htotals, -⟩
  simp only [libraryData, Json.recordOf, Json.toInternal, Json.mapKeys, Json.mapKeysFields,
    hplaces, hcompartments, hstorefronts, htotals, Json.ofFields, List.foldl_cons, List.foldl_nil,
    Json.insert, String.reduceLT, String.reduceEq, if_true, if_false, Json.mapKeysItems_eq_map,
    List.map_map]
  rfl

/-! ## Decoded records -/

/-- An amount is read as it is if it is finite, and is missing otherwise. -/
theorem amount_optionalDouble (x : Option Binary64) :
    Decode.amount (Json.optional Json.double x) = .ok (x.filter Binary64.isFinite) := by
  cases x with
  | none => rfl
  | some x =>
    rw [Json.optional, Json.double, Option.filter_some]
    cases hfinite : x.isFinite with
    | false => rfl
    | true =>
      have hamount : (Decode.NumberOrText.number x).amount? = some x := if_pos hfinite
      exact congrArg Except.ok hamount

/-- A game as the client decodes it. -/
def Game.reported (game : Game) : Reported.Game where
  id := game.id
  name := game.name
  platform := game.platform
  acquired := game.acquired
  condition := none
  hasCase := none
  hasManual := none

/-- A storefront as the client decodes it. -/
def Storefront.reported (storefront : Storefront) : Reported.Storefront where
  id := storefront.id
  name := storefront.name
  platform := some storefront.platform
  isSubscription := some storefront.isSubscription
  isActive := some storefront.isActive
  cost := storefront.cost.filter Binary64.isFinite
  nextPayment := storefront.nextPayment
  cycle := some storefront.cycle
  method := some storefront.method
  games := storefront.games.map Game.reported
  created := some storefront.created
  updated := some storefront.updated

/-- A game can be decoded. -/
theorem Game.read_reported (game : Game) :
    Reported.Game.layout.read game.toJson.toInternal = .ok game.reported := by
  rw [toInternal_toJson]
  exact Reported.Game.layout.read_of_finds
    (game.id, game.name, game.platform, game.acquired, none, none, none, ()) (by decide)
    ⟨rfl, rfl, nullable_optionalText game.platform, nullable_optionalText game.acquired, rfl, rfl,
      rfl, trivial⟩

/-- A storefront can be decoded, with its games. -/
theorem Storefront.read_reported (storefront : Storefront) :
    Reported.Storefront.layout.read storefront.toJson.toInternal = .ok storefront.reported := by
  rw [toInternal_toJson]
  have hgames : Decode.listOf Reported.Game.layout.read
      (.list (storefront.games.map fun game => game.toJson.toInternal)) =
        .ok (storefront.games.map Game.reported) :=
    items_map Game.read_reported storefront.games
  exact Reported.Storefront.layout.read_of_finds
    (storefront.id, storefront.name, some storefront.platform, some storefront.isSubscription,
      some storefront.isActive, storefront.cost.filter Binary64.isFinite, storefront.nextPayment,
      some storefront.cycle, some storefront.method, storefront.games.map Game.reported,
      some storefront.created, some storefront.updated, ()) (by decide)
    ⟨rfl, rfl, rfl, rfl, rfl, amount_optionalDouble storefront.cost,
      nullable_optionalText storefront.nextPayment, rfl, rfl, hgames, rfl, rfl, trivial⟩

/-- The totals can be decoded. -/
theorem Store.read_totals (store : Store) (items : Nat) :
    ∃ totals, Reported.Totals.layout.read (store.totals items).toInternal = .ok totals := by
  rw [toInternal_totals]
  -- every number is decoded, as a count or as none
  have hnat : ∀ n : Nat, ∃ found, Decode.count (.nat n) = .ok found := fun n => ⟨_, rfl⟩
  rcases hnat store.locationCount with ⟨locations, hlocations⟩
  rcases hnat items with ⟨found, hitems⟩
  exact ⟨_, Reported.Totals.layout.read_of_finds (_, _, ()) (by decide)
    ⟨hlocations, hitems, trivial⟩⟩

/-- The whole library as the client decodes it, with some totals. -/
def Store.reported (store : Store) (totals : Reported.Totals) : Reported.Library where
  places := some (store.places.map fun place => place.reported [])
  compartments := some (store.compartments.map Compartment.reported)
  storefronts := some (store.storefronts.map Storefront.reported)
  totals := some totals

/-- The whole library can be decoded. -/
theorem Store.read_library (store : Store) (items : Nat) :
    ∃ totals, Reported.Library.layout.read (store.libraryData items).toInternal =
      .ok (store.reported totals) := by
  rcases store.read_totals items with ⟨totals, htotals⟩
  have hplaces : Decode.listOf Reported.Place.layout.read
      (.list (store.places.map fun place => place.toJson.toInternal)) =
        .ok (store.places.map fun place => place.reported []) :=
    items_map Place.read_reported store.places
  have hstorefronts : Decode.listOf Reported.Storefront.layout.read
      (.list (store.storefronts.map fun storefront => storefront.toJson.toInternal)) =
        .ok (store.storefronts.map Storefront.reported) :=
    items_map Storefront.read_reported store.storefronts
  have hcompartments := read_compartments store.compartments
  refine ⟨totals, ?_⟩
  rw [toInternal_libraryData]
  exact Reported.Library.layout.read_of_finds
    (some (store.places.map fun place : Place => place.reported []),
      some (store.compartments.map Compartment.reported),
      some (store.storefronts.map Storefront.reported), some totals, ()) (by decide)
    ⟨nullable_of_ok (by simp) hplaces, nullable_of_ok (by simp) hcompartments,
      nullable_of_ok (by simp) hstorefronts,
      nullable_of_ok (by rw [toInternal_totals]; simp) htotals, trivial⟩

end Backend

end GameShelf
