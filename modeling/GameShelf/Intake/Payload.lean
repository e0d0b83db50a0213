import GameShelf.Client.Fault
import GameShelf.Intake.Places
import GameShelf.Intake.Storefronts
import GameShelf.Library.Census

/-!
# Taking in payloads

Each kind of reply is decoded and then taken in. Decoding is the only step that can fail; all
later surprises become notices. A library is counted as well, and there the program stops if a
count outgrows its word.

* `Batch.ofPayload`, `Place.ofPayload`, `Storefront.listOfPayload`, `Storefront.ofPayload`,
  `Library.ofPayload`: one for each kind of payload.

## Terms

These go by other names in the interface of the service:

* `Batch.ofPayload`, `Place.ofPayload`: `adapt_physical_aggregate`, `adapt_physical_location`.
* `Storefront.listOfPayload`, `Storefront.ofPayload`: `adapt_digital_locations`,
  `adapt_digital_location`.
* `Library.ofPayload`: `adapt_library`.
-/

namespace GameShelf

/-- Decodes a payload. -/
def decodePayload {α : Type} (read : Decode.Reader α) (payload : Json) : Except Fault α :=
  (read payload).mapError fun error => .undecodable error.message

/-- Places with their compartments. -/
def Batch.ofPayload (payload : Json) : Except Fault (Noted Batch) := do
  let raw ← decodePayload Reported.Batch.layout.read payload
  return do
    let (batch, _) ← takePlaces (raw.places.getD []) (raw.compartments.getD []) .none
    return batch

/-- One place with its compartments. -/
def Place.ofPayload (payload : Json) : Except Fault (Noted Place) := do
  let raw ← decodePayload Reported.Place.layout.read payload
  let taken := takePlaces [raw] [] .none
  match taken.value.1.places with
  | place :: _ => return ⟨place, taken.notices⟩
  | [] => throw (.undecodable "physical location missing from reply")

/-- A list of storefronts. -/
def Storefront.listOfPayload (payload : Json) : Except Fault (Noted (List Storefront)) := do
  let raw ← decodePayload (Decode.listOf Reported.Storefront.layout.read) payload
  return do
    let (storefronts, _) ← takeStorefronts .none raw
    return storefronts

/-- One storefront. -/
def Storefront.ofPayload (payload : Json) : Except Fault (Noted Storefront) := do
  let raw ← decodePayload Reported.Storefront.layout.read payload
  return do
    let (storefront, _) ← Storefront.ofReported .none raw
    return storefront

/-- The counts for a library: its own where the payload has all places and compartments, else
those that the server reports. Absent if the program stops while it counts. -/
def censusFor (raw : Reported.Library) (places : List Place) (storefronts : List Storefront) :
    Option Census :=
  if raw.places.isSome && raw.compartments.isSome then Census.ofLocations? places storefronts
  else some (Census.ofTotals (raw.totals.getD ⟨none, none⟩))

/-- What a decoded library comes to. Places claim their games before storefronts do. Absent if
the program stops while it counts. -/
def Library.ofReported? (raw : Reported.Library) : Option (Noted Library) :=
  let taken : Noted (List Place × List Storefront) := do
    let (batch, claims) ← takePlaces (raw.places.getD []) (raw.compartments.getD []) .none
    let (storefronts, _) ← takeStorefronts claims (raw.storefronts.getD [])
    return (batch.places, storefronts)
  (censusFor raw taken.value.1 taken.value.2).map fun census =>
    ⟨{ places := taken.value.1, storefronts := taken.value.2, census }, taken.notices⟩

/-- A library, or a fault of its decoder. There is neither if the program stops while it counts
the library. -/
def Library.ofPayload (payload : Json) : Except Fault (Option (Noted Library)) := do
  let raw ← decodePayload Reported.Library.layout.read payload
  return Library.ofReported? raw

end GameShelf
