import GameShelf.Proofs.Backend.Reported

/-!
# The overview taken for a place

The overview of all places stands where a place named like it would stand. Whoever asks for that
place gets the overview, and cannot take it for a place, whatever the backend keeps: its
compartments can be decoded, but an identifier is missing.

* `placeOfPayload_batch`: the fault is always the same.
-/

namespace GameShelf

open Rehearsal (replyOf)

namespace Backend

/-- A place cannot be decoded without an identifier. -/
theorem read_withoutId {ignored : Json} {items : List Json} {raw : List Reported.Compartment}
    (h : Decode.items Reported.Compartment.layout.read items = .ok raw) :
    Reported.Place.layout.read
        (.record [("physicalLocations", ignored), ("sublocations", .list items)]) =
      .error (.missingField "id") := by
  have hfirst : Decode.visit Reported.Place.layout.fields
      (Decode.Draft.blank Reported.Place.layout.types) "physicalLocations" ignored =
        .ok (Decode.Draft.blank Reported.Place.layout.types) := rfl
  have hsecond : Decode.visit Reported.Place.layout.fields
      (Decode.Draft.blank Reported.Place.layout.types) "sublocations" (.list items) =
        .ok (none, none, none, none, none, some raw, none, none, ()) := by
    have hlist : Decode.listOf Reported.Compartment.layout.read (.list items) = .ok raw := h
    simp only [Reported.Place.layout, Decode.Draft.blank, Decode.visit_eq, hlist, Decode.defaulted]
    rfl
  have hread : Reported.Place.layout.read
      (.record [("physicalLocations", ignored), ("sublocations", .list items)]) =
        (Decode.visitAll Reported.Place.layout.fields
          (Decode.Draft.blank Reported.Place.layout.types)
          [("physicalLocations", ignored), ("sublocations", .list items)]).bind fun draft =>
        (Decode.complete Reported.Place.layout.fields draft).bind fun values =>
          .ok (Reported.Place.layout.build values) := rfl
  rw [hread, Decode.visitAll, hfirst]
  simp only [bind, Except.bind, Decode.visitAll]
  rw [hsecond]
  rfl

end Backend

open Backend

/-- The overview cannot be taken for a place. -/
theorem placeOfPayload_batch (store : Store) :
    ∃ payload, (replyOf store.batch).data = .ok payload ∧
      Place.ofPayload payload =
        .error (.undecodable (DecodeError.missingField "id").message) := by
  refine ⟨store.batchData.toInternal, store.delivered_batch, ?_⟩
  have hcompartments := items_map Compartment.read_reported store.compartments
  rw [Store.toInternal_batchData, Place.ofPayload, decodePayload, read_withoutId hcompartments]
  rfl

end GameShelf
