import GameShelf.Decode.Record

/-!
# Records as servers report them

The records inside the payloads of a server, in internal spelling, before anything is made of
their texts. Most fields may be missing, and some go by two names.

* `Reported.Place`, `Reported.Compartment`, `Reported.Game`, `Reported.Storefront`: records of
  the library.
* `Reported.Totals`: counts that a server may add.
* `Reported.Batch`, `Reported.Library`: payloads of several records.
* `Reported.Reference`: the identifiers in the reply to a change.

Each has a `layout`, which says how it is decoded.

## Terms

These go by other names in the interface of the service:

* `Reported.Place`, `Reported.Compartment`: `RawPhysicalLocation`, `RawSublocation`.
* `Reported.Game`, `Reported.Storefront`: `RawGameItem`, `RawDigitalLocation`.
* `Reported.Totals`, `Reported.Reference`: `RawTotals`, `RawEntityRef`.
* `Reported.Batch`, `Reported.Library`: `RawPhysicalAggregate`, `RawLibraryAggregate`.
-/

namespace GameShelf.Reported

open Decode (Layout required optional defaulted)

/-! ## Games -/

/-- A game as reported. -/
structure Game where
  id : String
  name : String
  platform : Option String
  acquired : Option String
  condition : Option String
  hasCase : Option Bool
  hasManual : Option Bool
deriving DecidableEq, Repr

/-- How a game is decoded. -/
def Game.layout : Layout Game where
  title := "RawGameItem"
  types := [String, String, Option String, Option String, Option String, Option Bool, Option Bool]
  fields :=
    (required "id" Decode.text,
     required "name" Decode.text,
     (optional "platformName" Decode.text).alsoNamed "platform",
     (optional "acquiredDate" Decode.text).alsoNamed "acquisitionDate",
     optional "condition" Decode.text,
     optional "hasOriginalCase" Decode.flag,
     optional "hasManual" Decode.flag,
     ())
  build := fun (id, name, platform, acquired, condition, hasCase, hasManual, ()) =>
    { id, name, platform, acquired, condition, hasCase, hasManual }

/-! ## Compartments -/

/-- A compartment as reported. -/
structure Compartment where
  id : String
  name : String
  kind : Option String
  placeId : Option String
  description : Option String
  color : Option String
  storedItems : Option UInt64
  games : Option (List Game)
  created : Option String
  updated : Option String
deriving DecidableEq, Repr

/-- How a compartment is decoded. -/
def Compartment.layout : Layout Compartment where
  title := "RawSublocation"
  types :=
    [String, String, Option String, Option String, Option String, Option String, Option UInt64,
     Option (List Game), Option String, Option String]
  fields :=
    (required "id" Decode.text,
     required "name" Decode.text,
     (optional "locationType" Decode.text).alsoNamed "sublocationType",
     optional "parentLocationId" Decode.text,
     (optional "description" Decode.text).alsoNamed "notes",
     (optional "bgColor" Decode.text).alsoNamed "color",
     defaulted "storedItems" Decode.count none,
     optional "items" (Decode.listOf Game.layout.read),
     optional "createdAt" Decode.text,
     optional "updatedAt" Decode.text,
     ())
  build := fun (id, name, kind, placeId, description, color, storedItems, games, created,
      updated, ()) =>
    { id, name, kind, placeId, description, color, storedItems, games, created, updated }

/-! ## Places -/

/-- A place as reported. -/
structure Place where
  id : String
  name : String
  kind : Option String
  coordinates : Option String
  color : Option String
  compartments : List Compartment
  created : Option String
  updated : Option String
deriving DecidableEq, Repr

/-- How a place is decoded. -/
def Place.layout : Layout Place where
  title := "RawPhysicalLocation"
  types :=
    [String, String, Option String, Option String, Option String, List Compartment,
     Option String, Option String]
  fields :=
    (required "id" Decode.text,
     required "name" Decode.text,
     optional "locationType" Decode.text,
     optional "mapCoordinates" Decode.text,
     (optional "bgColor" Decode.text).alsoNamed "color",
     defaulted "sublocations" (Decode.listOf Compartment.layout.read) [],
     optional "createdAt" Decode.text,
     optional "updatedAt" Decode.text,
     ())
  build := fun (id, name, kind, coordinates, color, compartments, created, updated, ()) =>
    { id, name, kind, coordinates, color, compartments, created, updated }

/-! ## Storefronts -/

/-- A storefront as reported. -/
structure Storefront where
  id : String
  name : String
  platform : Option String
  isSubscription : Option Bool
  isActive : Option Bool
  cost : Option Binary64
  nextPayment : Option String
  cycle : Option String
  method : Option String
  games : List Game
  created : Option String
  updated : Option String
deriving DecidableEq, Repr

/-- How a storefront is decoded. -/
def Storefront.layout : Layout Storefront where
  title := "RawDigitalLocation"
  types :=
    [String, String, Option String, Option Bool, Option Bool, Option Binary64, Option String,
     Option String, Option String, List Game, Option String, Option String]
  fields :=
    (required "id" Decode.text,
     required "name" Decode.text,
     (optional "locationType" Decode.text).alsoNamed "platform",
     optional "isSubscription" Decode.flag,
     optional "isActive" Decode.flag,
     (defaulted "monthlyCost" Decode.amount none).alsoNamed "cost",
     (optional "nextPaymentDate" Decode.text).alsoNamed "paymentDate",
     optional "billingCycle" Decode.text,
     optional "paymentMethod" Decode.text,
     defaulted "items" (Decode.listOf Game.layout.read) [],
     optional "createdAt" Decode.text,
     optional "updatedAt" Decode.text,
     ())
  build := fun (id, name, platform, isSubscription, isActive, cost, nextPayment, cycle, method,
      games, created, updated, ()) =>
    { id, name, platform, isSubscription, isActive, cost, nextPayment, cycle, method, games,
      created, updated }

/-! ## Payloads -/

/-- Counts as reported. -/
structure Totals where
  locations : Option UInt64
  items : Option UInt64
deriving DecidableEq, Repr

/-- How counts are decoded. -/
def Totals.layout : Layout Totals where
  title := "RawTotals"
  types := [Option UInt64, Option UInt64]
  fields :=
    ((defaulted "locations" Decode.count none).alsoNamed "totalLocations",
     (defaulted "items" Decode.count none).alsoNamed "totalItems",
     ())
  build := fun (locations, items, ()) => { locations, items }

/-- Places with compartments beside them. -/
structure Batch where
  places : Option (List Place)
  compartments : Option (List Compartment)
deriving DecidableEq, Repr

/-- How places with compartments beside them are decoded. -/
def Batch.layout : Layout Batch where
  title := "RawPhysicalAggregate"
  types := [Option (List Place), Option (List Compartment)]
  fields :=
    (optional "physicalLocations" (Decode.listOf Place.layout.read),
     optional "sublocations" (Decode.listOf Compartment.layout.read),
     ())
  build := fun (places, compartments, ()) => { places, compartments }

/-- All locations, with counts. -/
structure Library where
  places : Option (List Place)
  compartments : Option (List Compartment)
  storefronts : Option (List Storefront)
  totals : Option Totals
deriving DecidableEq, Repr

/-- How all locations are decoded. -/
def Library.layout : Layout Library where
  title := "RawLibraryAggregate"
  types :=
    [Option (List Place), Option (List Compartment), Option (List Storefront), Option Totals]
  fields :=
    (optional "physicalLocations" (Decode.listOf Place.layout.read),
     optional "sublocations" (Decode.listOf Compartment.layout.read),
     optional "digitalLocations" (Decode.listOf Storefront.layout.read),
     (optional "totals" Totals.layout.read).alsoNamed "meta",
     ())
  build := fun (places, compartments, storefronts, totals, ()) =>
    { places, compartments, storefronts, totals }

/-- The identifiers in the reply to a change. -/
structure Reference where
  id : Option String
  placeId : Option String
deriving DecidableEq, Repr

/-- How the reply to a change is decoded. -/
def Reference.layout : Layout Reference where
  title := "RawEntityRef"
  types := [Option String, Option String]
  fields :=
    (optional "id" Decode.text,
     optional "parentLocationId" Decode.text,
     ())
  build := fun (id, placeId, ()) => { id, placeId }

end GameShelf.Reported
