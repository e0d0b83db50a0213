import GameShelf.Intake.Games

/-!
# Taking in places

Compartments come inside the record of their place or in a list beside the places, or both.
They are put into the places of the same batch by identifier; one whose place is not there is
dropped with a notice. Of several records with one identifier the first one counts.

* `Place.ofReported`, `Compartment.ofReported`: single records.
* `Roster`: the places taken in so far, with an index of where each one stands.
* `takePlaces`: a whole batch.

## Terms

These go by other names in the interface of the service:

* `takePlaces`: `adapt_physical`.
* `Place.ofReported`, `Compartment.ofReported`: `adapt_location`, `adapt_sublocation`.
* `MapPoint.ofReported`: `map_coordinates`, with `mapLink` as `map_link`.
-/

namespace GameShelf

/-! ## Single records -/

/-- The link to a map at a position in degrees. -/
def mapLink (latitude longitude : Binary64) : String :=
  "https://www.google.com/maps/search/?api=1&query=" ++ latitude.plainText ++ "%2C" ++
    longitude.plainText

/-- The position that a text gives as latitude, comma and longitude. -/
def position? (text : String) : Option (Binary64 × Binary64) :=
  let (before, after) := text.toList.span (· ≠ ',')
  match after with
  | [] => none
  | _ :: after => do
    let latitude ← Binary64.ofText? (Text.trim (String.ofList before))
    let longitude ← Binary64.ofText? (Text.trim (String.ofList after))
    if latitude.isWithin 90 && longitude.isWithin 180 then some (latitude, longitude) else none

/-- Where a place is. -/
def MapPoint.ofReported (raw : Option String) : Option MapPoint :=
  (Text.trimToSome raw).map fun text =>
    { raw := text, link := (position? text).map fun (latitude, longitude) =>
        mapLink latitude longitude }

/-- A place, still without its compartments. -/
def Place.ofReported (raw : Reported.Place) : Noted Place := do
  let kind ← Tag.take PlaceKind.house raw.kind
  let color ← Tag.takeOptional Color raw.color
  return {
    id := raw.id
    name := raw.name
    kind
    coordinates := MapPoint.ofReported raw.coordinates
    color
    compartments := []
    created := raw.created.bind Timestamp.ofText?
    updated := raw.updated.bind Timestamp.ofText? }

/-- The games of a compartment and how many it stores. Without a list of games the reported
count is believed. -/
def compartmentGames (owner : Owner) (claims : Claims) (raw : Reported.Compartment) :
    Noted ((List Game × Nat) × Claims) :=
  match raw.games with
  | some list => do
    let (games, claims) ← claimGames owner claims list
    return ((games, games.length), claims)
  | none => pure (([], (raw.storedItems.getD 0).toNat), claims)

/-- A compartment of a place. It takes the place's colour if it has none of its own. -/
def Compartment.ofReported (place : Place) (claims : Claims) (raw : Reported.Compartment) :
    Noted (Compartment × Claims) := do
  let ((games, storedItems), claims) ←
    compartmentGames (.compartment place.id raw.id) claims raw
  let color ← Tag.takeOptional Color raw.color
  let kind ← Tag.take CompartmentKind.shelf raw.kind
  let compartment : Compartment :=
    { id := raw.id
      name := raw.name
      kind
      placeId := place.id
      placeName := place.name
      placeKind := place.kind
      placeColor := place.color
      notes := Text.trimToSome raw.description
      color := color <|> place.color
      storedItems
      games
      created := raw.created.bind Timestamp.ofText?
      updated := raw.updated.bind Timestamp.ofText? }
  return (compartment, claims)

/-! ## Places of a batch -/

/-- The places taken in so far, and for each identifier where its place stands. -/
structure Roster where
  places : List Place
  index : List (String × Nat)
deriving DecidableEq, Repr

namespace Roster

/-- No places. -/
def empty : Roster := ⟨[], []⟩

/-- Where the place with an identifier stands. -/
def slot? (roster : Roster) (id : String) : Option Nat :=
  roster.index.lookup id

/-- Where the place with an identifier stands, and the place. -/
def find? (roster : Roster) (id : String) : Option (Nat × Place) := do
  let slot ← roster.slot? id
  let place ← roster.places[slot]?
  return (slot, place)

/-- Takes in the record of a place, unless one with its identifier was there before. -/
def add (roster : Roster) (raw : Reported.Place) : Noted Roster :=
  match roster.slot? raw.id with
  | some _ => ⟨roster, [.duplicateLocation raw.id]⟩
  | none => do
    let place ← Place.ofReported raw
    return {
      places := roster.places ++ [place]
      index := (raw.id, roster.places.length) :: roster.index }

/-- Puts a compartment at the end of those of a place. -/
def attach (roster : Roster) (slot : Nat) (compartment : Compartment) : Roster :=
  { roster with
    places := roster.places.modify slot fun place =>
      { place with compartments := place.compartments ++ [compartment] } }

/-- Takes in the records of places from first to last. -/
def addAll (roster : Roster) : List Reported.Place → Noted Roster
  | [] => pure roster
  | raw :: rest => do
    let roster ← roster.add raw
    roster.addAll rest

end Roster

/-! ## Compartments of a batch -/

/-- The record of a compartment, with the place in whose record it was found. -/
structure Listing where
  raw : Reported.Compartment
  nestedUnder : Option String
deriving DecidableEq, Repr

/-- The identifier of the place that a compartment names or in whose record it is. -/
def Listing.placeId (listing : Listing) : Option String :=
  listing.raw.placeId <|> listing.nestedUnder

/-- The compartments of a batch in the order in which they are taken in: those in the records
of places, then those beside them. -/
def listings (places : List Reported.Place) (beside : List Reported.Compartment) :
    List Listing :=
  places.flatMap (fun place => place.compartments.map fun raw => ⟨raw, some place.id⟩) ++
    beside.map fun raw => ⟨raw, none⟩

/-- A batch in the making. -/
structure Progress where
  roster : Roster
  /-- The identifiers of the compartments that were met, kept or not. -/
  seen : List String
  compartments : List Compartment
  claims : Claims
deriving DecidableEq, Repr

namespace Progress

/-- Takes in a compartment, unless one with its identifier was met before. -/
def add (progress : Progress) (listing : Listing) : Noted Progress :=
  if listing.raw.id ∈ progress.seen then pure progress
  else
    let progress := { progress with seen := listing.raw.id :: progress.seen }
    match listing.placeId.bind progress.roster.find? with
    | none => ⟨progress, [.orphan listing.raw.id listing.raw.placeId]⟩
    | some (slot, place) => do
      let (compartment, claims) ← Compartment.ofReported place progress.claims listing.raw
      return { progress with
        roster := progress.roster.attach slot compartment
        compartments := progress.compartments ++ [compartment]
        claims }

/-- Takes in compartments from first to last. -/
def addAll (progress : Progress) : List Listing → Noted Progress
  | [] => pure progress
  | listing :: rest => do
    let progress ← progress.add listing
    progress.addAll rest

end Progress

/-- Takes in places, the compartments in them, and the compartments beside them. -/
def takePlaces (places : List Reported.Place) (beside : List Reported.Compartment)
    (claims : Claims) : Noted (Batch × Claims) := do
  let roster ← Roster.empty.addAll places
  let progress ←
    Progress.addAll { roster, seen := [], compartments := [], claims } (listings places beside)
  return (⟨progress.roster.places, progress.compartments⟩, progress.claims)

end GameShelf
