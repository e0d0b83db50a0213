import GameShelf.Library.Basic
import GameShelf.Reported.Basic

/-!
# Counting a library

The counts of a library are taken from its locations whenever their details are known. A server
may report any count that a word of 64 bits can hold, so a sum of counts can outgrow such a word.
It does not wrap around then: the program stops, and there are no counts and no library. An
absent result below stands for this stop, which is none of the program's own errors. Lengths of
lists are counts too, but a list that is kept in memory never has more members than a word can
count, so they are added without a limit where nothing else comes to them.

* `word?`: a count that a word holds; `sumOf?`: sums of counts.
* `Place.storedItems?`: how many games a place stores.
* `Census.ofLocations?`: the counts of given places and storefronts.
* `Census.ofTotals`: the counts that a server reports, without any breakdown.

## Terms

These go by other names in the interface of the service:

* `Place.storedItems?`: `stored_items`.
* `Census.ofLocations?`, `Census.ofTotals`: `recompute`, `server_reported`.
-/

namespace GameShelf

/-! ## Sums -/

/-- A count that was added up. The program stops if a word of 64 bits cannot hold it. -/
def word? (count : Nat) : Option Nat :=
  if count < UInt64.size then some count else none

/-- The sum of a count over a list, added up from the first member on. -/
def sumOf? {α : Type} (count : α → Option Nat) (list : List α) : Option Nat :=
  list.foldlM (fun total a => do word? (total + (← count a))) 0

/-- How many games a place stores. -/
def Place.storedItems? (place : Place) : Option Nat :=
  sumOf? (fun compartment => some compartment.storedItems) place.compartments

/-- How many games a storefront has. -/
def Storefront.storedItems (storefront : Storefront) : Nat :=
  storefront.games.length

/-! ## Counts by identifier -/

/-- Adds to the count of a location. A location without a count starts at zero; the
identifiers stay in ascending order. -/
def addCount? (id : String) (amount : Nat) : List (String × Nat) → Option (List (String × Nat))
  | [] => some [(id, amount)]
  | (other, count) :: rest =>
    if id < other then some ((id, amount) :: (other, count) :: rest)
    else if id = other then (word? (count + amount)).map fun sum => (other, sum) :: rest
    else (addCount? id amount rest).map fun rest => (other, count) :: rest

/-- Adds what each member of a list counts to the count of its identifier. -/
def countBy? {α : Type} (key : α → String) (count : α → Option Nat) (list : List α)
    (counts : List (String × Nat)) : Option (List (String × Nat)) :=
  list.foldlM (fun counts a => do addCount? (key a) (← count a) counts) counts

namespace Census

/-- The counts of games by location. A place and a storefront with the same identifier share
one count. -/
def byLocation? (places : List Place) (storefronts : List Storefront) :
    Option (List (String × Nat)) := do
  let counts ← countBy? Place.id Place.storedItems? places []
  countBy? Storefront.id (fun storefront => some storefront.storedItems) storefronts counts

/-- Counts places and storefronts. -/
def ofLocations? (places : List Place) (storefronts : List Storefront) : Option Census := do
  let physical ← sumOf? Place.storedItems? places
  let digital ← sumOf? (fun storefront => some storefront.storedItems) storefronts
  let total ← word? (physical + digital)
  let byLocation ← byLocation? places storefronts
  return {
    locations :=
      { physical := places.length
        digital := storefronts.length
        sublocations := places.foldl (fun total place => total + place.compartments.length) 0
        total := places.length + storefronts.length }
    items := { physical, digital, total, byLocation }
    source := .recomputed }

/-- The counts that a server reports. All that it does not say is zero. -/
def ofTotals (totals : Reported.Totals) : Census where
  locations :=
    { physical := 0, digital := 0, sublocations := 0, total := (totals.locations.getD 0).toNat }
  items :=
    { physical := 0, digital := 0, total := (totals.items.getD 0).toNat, byLocation := [] }
  source := .serverReported

end Census

end GameShelf
