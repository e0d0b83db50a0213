import GameShelf.Intake.Payload
import GameShelf.Proofs.Decode.Overlooked

/-!
# Payloads of later servers

A server may come to report more of its records than is known here. Such keys, in whatever record
of a payload and with whatever value, change nothing of what is taken in: neither the places, games
and counts, nor the notices, nor the fault of a payload that cannot be decoded.

* `unknownKeys_overlooked`: all kinds of payloads.
* `deepGame_overlooked`: a key of a game inside of a library, put in and taken out.
-/

namespace GameShelf

open Decode (Reader Overlooks listOf names)

theorem decodePayload_congr {α : Type} {read : Reader α} {one other : Json}
    (h : Overlooks read one other) : decodePayload read one = decodePayload read other := by
  rw [decodePayload, decodePayload, h.read_eq]

/-- Payloads of any kind that differ only under a key that names no field, in one of the records
that are read in them, are taken in as the same with the same notices, or end with the same
fault. -/
theorem unknownKeys_overlooked {one other : Json} :
    (Overlooks Reported.Batch.layout.read one other →
        Batch.ofPayload one = Batch.ofPayload other) ∧
      (Overlooks Reported.Place.layout.read one other →
        Place.ofPayload one = Place.ofPayload other) ∧
      (Overlooks (listOf Reported.Storefront.layout.read) one other →
        Storefront.listOfPayload one = Storefront.listOfPayload other) ∧
      (Overlooks Reported.Storefront.layout.read one other →
        Storefront.ofPayload one = Storefront.ofPayload other) ∧
      (Overlooks Reported.Library.layout.read one other →
        Library.ofPayload one = Library.ofPayload other) := by
  refine ⟨?batch, ?place, ?storefronts, ?storefront, ?library⟩
  case batch =>
    intro h
    rw [Batch.ofPayload, Batch.ofPayload, decodePayload_congr h]
  case place =>
    intro h
    rw [Place.ofPayload, Place.ofPayload, decodePayload_congr h]
  case storefronts =>
    intro h
    rw [Storefront.listOfPayload, Storefront.listOfPayload, decodePayload_congr h]
  case storefront =>
    intro h
    rw [Storefront.ofPayload, Storefront.ofPayload, decodePayload_congr h]
  case library =>
    intro h
    rw [Library.ofPayload, Library.ofPayload, decodePayload_congr h]

/-- A library with one game, in a compartment that comes as the list of its values. -/
def libraryWith (game : Json.Fields) : Json :=
  .record
    [("physicalLocations", .list
      [.record
        [("id", .text "p"), ("name", .text "Home"),
         ("sublocations", .list
          [.list
            [.text "c", .text "Shelf", .null, .null, .null, .null, .null, .list [.record game],
             .null, .null]])]])]

theorem overlooks_libraryWith {game other : Json.Fields}
    (h : Overlooks Reported.Game.layout.read (.record game) (.record other)) :
    Overlooks Reported.Library.layout.read (libraryWith game) (libraryWith other) := by
  have hcompartment : Overlooks Reported.Compartment.layout.read _ _ :=
    .field Reported.Compartment.layout
      (.there <| .there <| .there <| .there <| .there <| .there <| .there .here)
      (.item [.text "c", .text "Shelf", .null, .null, .null, .null, .null] [.null, .null])
      rfl (.nullable (.item [] [] h))
  have hplace : Overlooks Reported.Place.layout.read _ _ :=
    .field Reported.Place.layout (.there <| .there <| .there <| .there <| .there .here)
      (.entry [("id", .text "p"), ("name", .text "Home")] "sublocations" [])
      rfl (.item [] [] hcompartment)
  exact .field Reported.Library.layout .here (.entry [] "physicalLocations" [])
    rfl (.nullable (.item [] [] hplace))

/-- A key put into the game leaves the library as it is. Taken out of a game without a name, it
leaves the fault. -/
theorem deepGame_overlooked :
    let game : Json.Fields := [("id", .text "g"), ("name", .text "Go")]
    let nameless : Json.Fields := [("hasBox", .nat 1), ("id", .text "g")]
    Overlooks Reported.Library.layout.read (libraryWith game)
        (libraryWith (Json.insert "hasBox" (.nat 1) game)) ∧
      Library.ofPayload (libraryWith game) =
        Library.ofPayload (libraryWith (Json.insert "hasBox" (.nat 1) game)) ∧
      Overlooks Reported.Library.layout.read (libraryWith nameless)
        (libraryWith (nameless.filter fun entry => entry.1 ≠ "hasBox")) ∧
      Library.ofPayload (libraryWith nameless) =
        Library.ofPayload (libraryWith (nameless.filter fun entry => entry.1 ≠ "hasBox")) ∧
      Library.ofPayload (libraryWith nameless) = .error (.undecodable "missing field `name`") := by
  intro game nameless
  have hkey : names Reported.Game.layout.fields "hasBox" = false := rfl
  have hinsert := overlooks_libraryWith (.insert Reported.Game.layout hkey (.nat 1) game)
  have hwithout := overlooks_libraryWith (.without Reported.Game.layout hkey nameless)
  exact ⟨hinsert, unknownKeys_overlooked.2.2.2.2 hinsert, hwithout,
    unknownKeys_overlooked.2.2.2.2 hwithout, rfl⟩

end GameShelf
