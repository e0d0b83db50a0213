import GameShelf.Decode.Record
import GameShelf.Library.Render

/-!
# Records of the backend

The backend keeps its records in wire spelling and takes every text as it comes. A record is
written with all its fields; a request gives some of them.

* `Backend.Place`, `Backend.Compartment`, `Backend.Game`, `Backend.Storefront`: what is kept.
* `Backend.CreatePlace`, `Backend.UpdatePlace`, `Backend.CreateCompartment`,
  `Backend.CreateStorefront`, `Backend.UpdateStorefront`: what requests give.

## Terms

These go by other names in the interface of the service:

* `Backend.Place`, `Backend.Compartment`: `PhysicalLocation`, `Sublocation`.
* `Backend.Game`, `Backend.Storefront`: `GameItem`, `DigitalLocation`.
* Requests are named after these records, as in `CreateSublocation` or `UpdateDigitalLocation`.
-/

namespace GameShelf.Backend

open Decode (Layout required optional defaulted)

/-! ## Places -/

/-- A place that the backend keeps. -/
structure Place where
  id : String
  name : String
  kind : String
  coordinates : Option String
  color : Option String
  created : String
  updated : String
deriving DecidableEq, Repr

/-- How a place is decoded. -/
def Place.layout : Layout Place where
  title := "PhysicalLocation"
  types := [String, String, String, Option String, Option String, String, String]
  fields :=
    (required "id" Decode.text,
     required "name" Decode.text,
     required "location_type" Decode.text,
     optional "map_coordinates" Decode.text,
     optional "bg_color" Decode.text,
     required "created_at" Decode.text,
     required "updated_at" Decode.text,
     ())
  build := fun (id, name, kind, coordinates, color, created, updated, ()) =>
    { id, name, kind, coordinates, color, created, updated }

/-- The fields of a place on the wire. -/
def Place.fields (place : Place) : Json.Fields :=
  [("id", .text place.id),
   ("name", .text place.name),
   ("location_type", .text place.kind),
   ("map_coordinates", Json.optionalText place.coordinates),
   ("bg_color", Json.optionalText place.color),
   ("created_at", .text place.created),
   ("updated_at", .text place.updated)]

/-- A place on the wire. -/
def Place.toJson (place : Place) : Json :=
  Json.recordOf place.fields

/-- What the creation of a place gives. -/
structure CreatePlace where
  name : String
  kind : String
  coordinates : Option String
  color : Option String
deriving DecidableEq, Repr

/-- How the creation of a place is decoded. -/
def CreatePlace.layout : Layout CreatePlace where
  title := "CreatePhysicalLocation"
  types := [String, String, Option String, Option String]
  fields :=
    (required "name" Decode.text,
     required "location_type" Decode.text,
     optional "map_coordinates" Decode.text,
     optional "bg_color" Decode.text,
     ())
  build := fun (name, kind, coordinates, color, ()) => { name, kind, coordinates, color }

/-- What an alteration of a place gives. -/
structure UpdatePlace where
  name : Option String
  kind : Option String
  coordinates : Option String
  color : Option String
deriving DecidableEq, Repr

/-- How an alteration of a place is decoded. -/
def UpdatePlace.layout : Layout UpdatePlace where
  title := "UpdatePhysicalLocation"
  types := [Option String, Option String, Option String, Option String]
  fields :=
    (optional "name" Decode.text,
     optional "location_type" Decode.text,
     optional "map_coordinates" Decode.text,
     optional "bg_color" Decode.text,
     ())
  build := fun (name, kind, coordinates, color, ()) => { name, kind, coordinates, color }

/-! ## Compartments -/

/-- A compartment that the backend keeps. -/
structure Compartment where
  id : String
  name : String
  kind : String
  placeId : String
  description : Option String
  color : Option String
  storedItems : UInt32
  created : String
  updated : String
deriving DecidableEq, Repr

/-- How a compartment is decoded. -/
def Compartment.layout : Layout Compartment where
  title := "Sublocation"
  types :=
    [String, String, String, String, Option String, Option String, UInt32, String, String]
  fields :=
    (required "id" Decode.text,
     required "name" Decode.text,
     required "location_type" Decode.text,
     required "parent_location_id" Decode.text,
     optional "description" Decode.text,
     optional "bg_color" Decode.text,
     required "stored_items" Decode.word32,
     required "created_at" Decode.text,
     required "updated_at" Decode.text,
     ())
  build := fun (id, name, kind, placeId, description, color, storedItems, created, updated, ()) =>
    { id, name, kind, placeId, description, color, storedItems, created, updated }

/-- A compartment on the wire. -/
def Compartment.toJson (compartment : Compartment) : Json :=
  Json.recordOf
    [("id", .text compartment.id),
     ("name", .text compartment.name),
     ("location_type", .text compartment.kind),
     ("parent_location_id", .text compartment.placeId),
     ("description", Json.optionalText compartment.description),
     ("bg_color", Json.optionalText compartment.color),
     ("stored_items", .nat compartment.storedItems.toNat),
     ("created_at", .text compartment.created),
     ("updated_at", .text compartment.updated)]

/-- What the creation of a compartment gives. -/
structure CreateCompartment where
  name : String
  kind : String
  placeId : String
  description : Option String
  color : Option String
deriving DecidableEq, Repr

/-- How the creation of a compartment is decoded. -/
def CreateCompartment.layout : Layout CreateCompartment where
  title := "CreateSublocation"
  types := [String, String, String, Option String, Option String]
  fields :=
    (required "name" Decode.text,
     required "location_type" Decode.text,
     required "parent_location_id" Decode.text,
     optional "description" Decode.text,
     optional "bg_color" Decode.text,
     ())
  build := fun (name, kind, placeId, description, color, ()) =>
    { name, kind, placeId, description, color }

/-! ## Storefronts -/

/-- A game that the backend keeps. -/
structure Game where
  id : String
  name : String
  platform : Option String
  acquired : Option String
deriving DecidableEq, Repr

/-- How a game is decoded. -/
def Game.layout : Layout Game where
  title := "GameItem"
  types := [String, String, Option String, Option String]
  fields :=
    (required "id" Decode.text,
     required "name" Decode.text,
     optional "platform_name" Decode.text,
     optional "acquired_date" Decode.text,
     ())
  build := fun (id, name, platform, acquired, ()) => { id, name, platform, acquired }

/-- A game on the wire. -/
def Game.toJson (game : Game) : Json :=
  Json.recordOf
    [("id", .text game.id),
     ("name", .text game.name),
     ("platform_name", Json.optionalText game.platform),
     ("acquired_date", Json.optionalText game.acquired)]

/-- A storefront that the backend keeps. -/
structure Storefront where
  id : String
  name : String
  platform : String
  isSubscription : Bool
  isActive : Bool
  cost : Option Binary64
  cycle : String
  nextPayment : Option String
  method : String
  games : List Game
  created : String
  updated : String
deriving DecidableEq, Repr

/-- How a storefront is decoded. -/
def Storefront.layout : Layout Storefront where
  title := "DigitalLocation"
  types :=
    [String, String, String, Bool, Bool, Option Binary64, String, Option String, String,
     List Game, String, String]
  fields :=
    (required "id" Decode.text,
     required "name" Decode.text,
     required "location_type" Decode.text,
     required "is_subscription" Decode.flag,
     required "is_active" Decode.flag,
     optional "monthly_cost" Decode.double,
     required "billing_cycle" Decode.text,
     optional "next_payment_date" Decode.text,
     required "payment_method" Decode.text,
     required "items" (Decode.listOf Game.layout.read),
     required "created_at" Decode.text,
     required "updated_at" Decode.text,
     ())
  build := fun (id, name, platform, isSubscription, isActive, cost, cycle, nextPayment, method,
      games, created, updated, ()) =>
    { id, name, platform, isSubscription, isActive, cost, cycle, nextPayment, method, games,
      created, updated }

/-- A storefront on the wire. -/
def Storefront.toJson (storefront : Storefront) : Json :=
  Json.recordOf
    [("id", .text storefront.id),
     ("name", .text storefront.name),
     ("location_type", .text storefront.platform),
     ("is_subscription", .flag storefront.isSubscription),
     ("is_active", .flag storefront.isActive),
     ("monthly_cost", Json.optional Json.double storefront.cost),
     ("billing_cycle", .text storefront.cycle),
     ("next_payment_date", Json.optionalText storefront.nextPayment),
     ("payment_method", .text storefront.method),
     ("items", .list (storefront.games.map Game.toJson)),
     ("created_at", .text storefront.created),
     ("updated_at", .text storefront.updated)]

/-- What the creation of a storefront gives. -/
structure CreateStorefront where
  name : String
  platform : String
  isSubscription : Bool
  isActive : Bool
  cost : Option Binary64
  cycle : String
  nextPayment : Option String
  method : String
deriving DecidableEq, Repr

/-- How the creation of a storefront is decoded. -/
def CreateStorefront.layout : Layout CreateStorefront where
  title := "CreateDigitalLocation"
  types := [String, String, Bool, Bool, Option Binary64, String, Option String, String]
  fields :=
    (required "name" Decode.text,
     required "location_type" Decode.text,
     defaulted "is_subscription" Decode.flag false,
     defaulted "is_active" Decode.flag true,
     optional "monthly_cost" Decode.double,
     defaulted "billing_cycle" Decode.text "monthly",
     optional "next_payment_date" Decode.text,
     defaulted "payment_method" Decode.text "generic",
     ())
  build := fun (name, platform, isSubscription, isActive, cost, cycle, nextPayment, method, ()) =>
    { name, platform, isSubscription, isActive, cost, cycle, nextPayment, method }

/-- What an alteration of a storefront gives. -/
structure UpdateStorefront where
  name : Option String
  platform : Option String
  isSubscription : Option Bool
  isActive : Option Bool
  cost : Option Binary64
  cycle : Option String
  nextPayment : Option String
  method : Option String
deriving DecidableEq, Repr

/-- How an alteration of a storefront is decoded. -/
def UpdateStorefront.layout : Layout UpdateStorefront where
  title := "UpdateDigitalLocation"
  types :=
    [Option String, Option String, Option Bool, Option Bool, Option Binary64, Option String,
     Option String, Option String]
  fields :=
    (optional "name" Decode.text,
     optional "location_type" Decode.text,
     optional "is_subscription" Decode.flag,
     optional "is_active" Decode.flag,
     optional "monthly_cost" Decode.double,
     optional "billing_cycle" Decode.text,
     optional "next_payment_date" Decode.text,
     optional "payment_method" Decode.text,
     ())
  build := fun (name, platform, isSubscription, isActive, cost, cycle, nextPayment, method, ()) =>
    { name, platform, isSubscription, isActive, cost, cycle, nextPayment, method }

end GameShelf.Backend
