import GameShelf.Calendar.Timestamp
import GameShelf.Tag.Tables

/-!
# The library

What a collector owns and where it is. Games lie in compartments of places, or belong to an
account at a storefront; each game has one owner.

* `Game`, `Owner`: games and who holds them.
* `Place`, `Compartment`: places and the compartments in them.
* `Storefront`, `Billing`: storefronts and how they are paid.
* `Census`: counts of locations and games.
* `Library`: all of these together.

## Terms

The service whose library this is speaks of physical and digital locations with items. Its
interface has these names for what is defined here:

* `Place`: `PhysicalLocation`, with its `MapPoint` as `MapCoordinates`.
* `Compartment`: `Sublocation`; `Compartment.storedItems` and `Compartment.games` are `stored_items`
  and `items`.
* `Storefront`: `DigitalLocation`.
* `Game`, `Media`, `Owner`: `GameItem`, `PhysicalMedia`, `ItemOwner`.
* `Batch`: `PhysicalBatch`. `Library`: `LibrarySnapshot`. `Census`: `AggregateMetadata`.
* `PlaceKind`, `CompartmentKind`, `Platform`, `Color`: `PhysicalLocationType`, `SublocationType`,
  `DigitalPlatform`, `IconColor`.
-/

namespace GameShelf

/-- Who holds a game. -/
inductive Owner where
  | compartment (place compartment : String)
  | storefront (id : String)
deriving DecidableEq, Repr

/-- The place or storefront of an owner. -/
def Owner.location : Owner → String
  | .compartment place _ => place
  | .storefront id => id

/-- What is known of the physical copy of a game. -/
structure Media where
  condition : Option String
  hasCase : Option Bool
  hasManual : Option Bool
deriving DecidableEq, Repr

/-- A game with its owner. -/
structure Game where
  id : String
  name : String
  slug : String
  platform : Option String
  acquired : Option Date
  media : Option Media
  owner : Owner
deriving DecidableEq, Repr

/-- Where a place is: the text as given and, if it reads as a position, a link to a map. -/
structure MapPoint where
  raw : String
  link : Option String
deriving DecidableEq, Repr

/-- A compartment of a place. What it shows of its place is a copy. -/
structure Compartment where
  id : String
  name : String
  kind : CompartmentKind
  placeId : String
  placeName : String
  placeKind : PlaceKind
  placeColor : Option Color
  notes : Option String
  color : Option Color
  storedItems : Nat
  games : List Game
  created : Option Timestamp
  updated : Option Timestamp
deriving DecidableEq, Repr

/-- A place with its compartments. -/
structure Place where
  id : String
  name : String
  kind : PlaceKind
  coordinates : Option MapPoint
  color : Option Color
  compartments : List Compartment
  created : Option Timestamp
  updated : Option Timestamp
deriving DecidableEq, Repr

/-- How a storefront is paid. -/
structure Billing where
  isSubscription : Bool
  cost : Option Binary64
  cycle : BillingCycle
  nextPayment : Option Date
  method : PaymentMethod
deriving DecidableEq, Repr

/-- An account at a storefront. -/
structure Storefront where
  id : String
  name : String
  platform : Platform
  isActive : Bool
  billing : Billing
  games : List Game
  created : Option Timestamp
  updated : Option Timestamp
deriving DecidableEq, Repr

/-- The places of a batch and all their compartments in one list. -/
structure Batch where
  places : List Place
  compartments : List Compartment
deriving DecidableEq, Repr

/-- Counts of locations. -/
structure LocationCounts where
  physical : Nat
  digital : Nat
  sublocations : Nat
  total : Nat
deriving DecidableEq, Repr

/-- Counts of games, in all and by location; the locations ascend by identifier. -/
structure ItemCounts where
  physical : Nat
  digital : Nat
  total : Nat
  byLocation : List (String × Nat)
deriving DecidableEq, Repr

/-- Where counts come from. -/
inductive CountSource where
  | recomputed
  | serverReported
deriving DecidableEq, Repr

/-- The counts of a library. -/
structure Census where
  locations : LocationCounts
  items : ItemCounts
  source : CountSource
deriving DecidableEq, Repr

/-- A library. -/
structure Library where
  places : List Place
  storefronts : List Storefront
  census : Census
deriving DecidableEq, Repr

end GameShelf
