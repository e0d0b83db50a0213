import GameShelf.Json.Basic
import GameShelf.Library.Basic

/-!
# The library as JSON

Normalized values are written with every field, null for what is absent, tags in their wire
text, days and points in time in their written form.

The main definitions are the `toJson` functions of the types of the library.
-/

namespace GameShelf

namespace Json

/-- An optional text, null if absent. -/
def optionalText : Option String → Json :=
  optional Json.text

/-- An optional truth value, null if absent. -/
def optionalFlag : Option Bool → Json :=
  optional Json.flag

/-- An optional tag in its wire text, null if absent. -/
def optionalTag {α : Type} [Tag α] : Option α → Json :=
  optional fun tag => .text (Tag.wire tag)

/-- An optional day, null if absent. -/
def optionalDate : Option Date → Json :=
  optional fun date => .text date.text

/-- An optional point in time, null if absent. -/
def optionalTimestamp : Option Timestamp → Json :=
  optional fun time => .text time.text

/-- A double; one that is not finite is written as null. -/
def double (x : Binary64) : Json :=
  if x.isFinite then .number (.real x) else .null

end Json

/-- An owner, with the kind of location that it is. -/
def Owner.toJson : Owner → Json
  | .compartment place holder =>
    Json.recordOf
      [("kind", .text "sublocation"), ("location_id", .text place),
       ("sublocation_id", .text holder)]
  | .storefront id => Json.recordOf [("kind", .text "digital"), ("location_id", .text id)]

/-- What is known of a physical copy. -/
def Media.toJson (media : Media) : Json :=
  Json.recordOf
    [("condition", Json.optionalText media.condition),
     ("has_original_case", Json.optionalFlag media.hasCase),
     ("has_manual", Json.optionalFlag media.hasManual)]

/-- A game. -/
def Game.toJson (game : Game) : Json :=
  Json.recordOf
    [("id", .text game.id),
     ("name", .text game.name),
     ("slug", .text game.slug),
     ("platform", Json.optionalText game.platform),
     ("acquired_date", Json.optionalDate game.acquired),
     ("media", Json.optional Media.toJson game.media),
     ("owner", game.owner.toJson)]

/-- Where a place is. -/
def MapPoint.toJson (point : MapPoint) : Json :=
  Json.recordOf [("raw", .text point.raw), ("link", Json.optionalText point.link)]

/-- A compartment. -/
def Compartment.toJson (compartment : Compartment) : Json :=
  Json.recordOf
    [("id", .text compartment.id),
     ("name", .text compartment.name),
     ("sublocation_type", .text compartment.kind.wire),
     ("parent_location_id", .text compartment.placeId),
     ("parent_name", .text compartment.placeName),
     ("parent_location_type", .text compartment.placeKind.wire),
     ("parent_color", Json.optionalTag compartment.placeColor),
     ("notes", Json.optionalText compartment.notes),
     ("color", Json.optionalTag compartment.color),
     ("stored_items", .nat compartment.storedItems),
     ("items", .list (compartment.games.map Game.toJson)),
     ("created_at", Json.optionalTimestamp compartment.created),
     ("updated_at", Json.optionalTimestamp compartment.updated)]

/-- A place. -/
def Place.toJson (place : Place) : Json :=
  Json.recordOf
    [("id", .text place.id),
     ("name", .text place.name),
     ("location_type", .text place.kind.wire),
     ("coordinates", Json.optional MapPoint.toJson place.coordinates),
     ("color", Json.optionalTag place.color),
     ("sublocations", .list (place.compartments.map Compartment.toJson)),
     ("created_at", Json.optionalTimestamp place.created),
     ("updated_at", Json.optionalTimestamp place.updated)]

/-- How a storefront is paid. -/
def Billing.toJson (billing : Billing) : Json :=
  Json.recordOf
    [("is_subscription", .flag billing.isSubscription),
     ("cost", Json.optional Json.double billing.cost),
     ("cycle", .text billing.cycle.wire),
     ("next_payment_date", Json.optionalDate billing.nextPayment),
     ("payment_method", .text billing.method.wire)]

/-- A storefront. -/
def Storefront.toJson (storefront : Storefront) : Json :=
  Json.recordOf
    [("id", .text storefront.id),
     ("name", .text storefront.name),
     ("platform", .text storefront.platform.wire),
     ("is_active", .flag storefront.isActive),
     ("billing", storefront.billing.toJson),
     ("items", .list (storefront.games.map Game.toJson)),
     ("created_at", Json.optionalTimestamp storefront.created),
     ("updated_at", Json.optionalTimestamp storefront.updated)]

/-- Places and all their compartments. -/
def Batch.toJson (batch : Batch) : Json :=
  Json.recordOf
    [("locations", .list (batch.places.map Place.toJson)),
     ("sublocations", .list (batch.compartments.map Compartment.toJson))]

/-- Counts of locations. -/
def LocationCounts.toJson (counts : LocationCounts) : Json :=
  Json.recordOf
    [("physical", .nat counts.physical),
     ("digital", .nat counts.digital),
     ("sublocations", .nat counts.sublocations),
     ("total", .nat counts.total)]

/-- Counts of games. -/
def ItemCounts.toJson (counts : ItemCounts) : Json :=
  Json.recordOf
    [("physical", .nat counts.physical),
     ("digital", .nat counts.digital),
     ("total", .nat counts.total),
     ("by_location",
      Json.recordOf (counts.byLocation.map fun (id, count) => (id, Json.nat count)))]

/-- Where counts come from. -/
def CountSource.text : CountSource → String
  | .recomputed => "recomputed"
  | .serverReported => "server_reported"

/-- The counts of a library. -/
def Census.toJson (census : Census) : Json :=
  Json.recordOf
    [("locations", census.locations.toJson),
     ("items", census.items.toJson),
     ("source", .text census.source.text)]

/-- A library. -/
def Library.toJson (library : Library) : Json :=
  Json.recordOf
    [("physical", .list (library.places.map Place.toJson)),
     ("digital", .list (library.storefronts.map Storefront.toJson)),
     ("metadata", library.census.toJson)]

end GameShelf
