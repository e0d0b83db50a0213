import GameShelf.Intake.Payload
import GameShelf.Proofs.Intake.Batch
import GameShelf.Proofs.Results

/-!
# What is made of decoded payloads

A payload of any kind is decoded first. Then something is made of whatever was decoded, and nothing
but notices can come up on the way. Only a library may come to nothing there, where it cannot be
counted.

* `IsMadeFrom`: what this means for a kind of payload.
* `IsMadeFrom.of_read`, `IsMadeFrom.exists_read`, `IsMadeFrom.eq_error_iff`: what becomes of one
  payload.
* `Batch.isMadeFrom`, `Place.isMadeFrom`, `Storefront.list_isMadeFrom`, `Storefront.isMadeFrom`,
  `Library.isMadeFrom`: what is made in each kind.
* `batchOf`, `frontsOf`: the parts of a library. `Library.ofReported?_eq` puts it together from
  them.
-/

namespace GameShelf

/-- Payloads of a kind are decoded, and something is made of whatever is decoded. -/
def IsMadeFrom {α β : Type} (read : Decode.Reader α) (make : α → β)
    (takeIn : Json → Except Fault β) : Prop :=
  ∀ payload, takeIn payload = (decodePayload read payload).map make

namespace IsMadeFrom

variable {α β : Type} {read : Decode.Reader α} {make : α → β} {takeIn : Json → Except Fault β}
  {payload : Json}

theorem of_read (h : IsMadeFrom read make takeIn) {raw : α} (hread : read payload = .ok raw) :
    takeIn payload = .ok (make raw) := by
  rw [h payload, decodePayload, hread]
  rfl

theorem exists_read (h : IsMadeFrom read make takeIn) {made : β}
    (htaken : takeIn payload = .ok made) : ∃ raw, read payload = .ok raw ∧ make raw = made := by
  rw [h payload] at htaken
  rcases exists_of_map_eq_ok htaken with ⟨raw, hraw, hmade⟩
  exact ⟨raw, eq_ok_of_mapError hraw, hmade⟩

/-- All faults are those of the decoder. -/
theorem eq_error_iff (h : IsMadeFrom read make takeIn) {fault : Fault} :
    takeIn payload = .error fault ↔
      ∃ error, read payload = .error error ∧ fault = .undecodable error.message := by
  rw [h payload, map_eq_error_iff, decodePayload]
  cases read payload with
  | error error => simp [Except.mapError, eq_comm]
  | ok raw => simp [Except.mapError]

end IsMadeFrom

/-! ## Kinds of payloads -/

/-- A result without the claims that came with it. -/
theorem Noted.bind_fst {α β : Type} (taken : Noted (α × β)) :
    (taken >>= fun pair => pure pair.1) = ⟨taken.value.1, taken.notices⟩ :=
  congrArg (Noted.mk taken.value.1) (List.append_nil taken.notices)

theorem Batch.isMadeFrom :
    IsMadeFrom Reported.Batch.layout.read
      (fun raw =>
        let taken := takePlaces (raw.places.getD []) (raw.compartments.getD []) .none
        ⟨taken.value.1, taken.notices⟩)
      Batch.ofPayload := by
  intro payload
  simp only [map_eq_bind, ← Noted.bind_fst]
  rfl

/-- A record of a place alone gives this one place. -/
theorem takePlaces_alone (raw : Reported.Place) :
    (takePlaces [raw] [] .none).value.1.places =
      [(Place.ofReported raw).value.holding (takePlaces [raw] [] .none).value.1.compartments] := by
  rw [takePlaces_places]
  rfl

/-- A place that comes alone, with the notices on the way to it. -/
def Place.alone (raw : Reported.Place) : Noted Place :=
  let taken := takePlaces [raw] [] .none
  ⟨(Place.ofReported raw).value.holding taken.value.1.compartments, taken.notices⟩

theorem Place.alone_mem (raw : Reported.Place) :
    (Place.alone raw).value ∈ (takePlaces [raw] [] .none).value.1.places := by
  rw [takePlaces_alone]
  exact List.mem_singleton_self _

theorem Place.isMadeFrom :
    IsMadeFrom Reported.Place.layout.read Place.alone Place.ofPayload := by
  intro payload
  rw [Place.ofPayload]
  cases decodePayload Reported.Place.layout.read payload with
  | error fault => rfl
  | ok raw =>
    simp only [bind, Except.bind, takePlaces_alone]
    rfl

theorem Storefront.list_isMadeFrom :
    IsMadeFrom (Decode.listOf Reported.Storefront.layout.read)
      (fun raws => ⟨(takeStorefronts .none raws).value.1, (takeStorefronts .none raws).notices⟩)
      Storefront.listOfPayload := by
  intro payload
  simp only [map_eq_bind, ← Noted.bind_fst]
  rfl

theorem Storefront.isMadeFrom :
    IsMadeFrom Reported.Storefront.layout.read
      (fun raw =>
        let taken := Storefront.ofReported .none raw
        ⟨taken.value.1, taken.notices⟩)
      Storefront.ofPayload := by
  intro payload
  simp only [map_eq_bind, ← Noted.bind_fst]
  rfl

/-! ## Libraries -/

/-- The places of a library with their compartments. -/
def batchOf (raw : Reported.Library) : Noted (Batch × Claims) :=
  takePlaces (raw.places.getD []) (raw.compartments.getD []) .none

/-- The storefronts of a library. -/
def frontsOf (raw : Reported.Library) : Noted (List Storefront × Claims) :=
  takeStorefronts (batchOf raw).value.2 (raw.storefronts.getD [])

/-- A library has its parts, and the counts for them, or it comes to nothing if there are none. -/
theorem Library.ofReported?_eq (raw : Reported.Library) :
    Library.ofReported? raw =
      (censusFor raw (batchOf raw).value.1.places (frontsOf raw).value.1).map fun census =>
        ⟨{ places := (batchOf raw).value.1.places, storefronts := (frontsOf raw).value.1, census },
          (batchOf raw).notices ++ (frontsOf raw).notices⟩ := by
  simp only [Library.ofReported?, Noted.value_bind, Noted.notices_bind, Noted.value_pure,
    Noted.notices_pure, List.append_nil]
  rfl

theorem Library.isMadeFrom :
    IsMadeFrom Reported.Library.layout.read Library.ofReported? Library.ofPayload := by
  intro payload
  rw [map_eq_bind]
  rfl

end GameShelf
