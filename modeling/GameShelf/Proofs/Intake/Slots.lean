import GameShelf.Proofs.Decode.Entries
import GameShelf.Proofs.Intake.Decoded

/-!
# What can fail while payloads are taken in

Decoding is the only step that fails. After it a place that comes alone is always there, and every
slot that the index has for an identifier is one of a place with that identifier, from the first
record of a place to the last listing of a compartment.

* `Roster.Reliable`: slots lead to the places that they are looked up for.
* `Roster.WellIndexed.attach`, `Progress.add_wellIndexed`, `Progress.addAll_wellIndexed`: the index
  stays true while compartments are put into places.
* `Progress.during`: a batch after some of its listings.
* `FailsOnlyToDecode`: a kind of payload that has no faults but those of its decoder.
* `onlyDecodingFails`: all kinds of payloads, and every slot on the way.
-/

namespace GameShelf

open Decode (listOf)

/-! ## Slots -/

namespace Roster

/-- What the index of a roster says can be relied on. -/
structure Reliable (roster : Roster) : Prop where
  /-- A slot for an identifier is a position of the places, and the place there has the
  identifier. -/
  slot_holds : ∀ id slot, roster.slot? id = some slot →
    ∃ _ : slot < roster.places.length, roster.places[slot].id = id
  /-- So there is a place wherever there is a slot. -/
  find?_slot : ∀ id, (roster.find? id).map Prod.fst = roster.slot? id

/-- An index that finds a place exactly where it stands can be relied on. -/
theorem WellIndexed.reliable {roster : Roster} (h : roster.WellIndexed) : roster.Reliable := by
  constructor
  case slot_holds =>
    intro id slot hslot
    rcases (h id slot).mp hslot with ⟨place, hplace, hid⟩
    rcases List.getElem?_eq_some_iff.mp hplace with ⟨hlt, hstands⟩
    exact ⟨hlt, by rw [hstands, hid]⟩
  case find?_slot =>
    intro id
    cases hslot : roster.slot? id with
    | none => simp [find?, hslot]
    | some slot =>
      rcases (h id slot).mp hslot with ⟨place, hplace, hid⟩
      rw [h.find?_eq_some.mpr ⟨hplace, hid⟩]
      rfl

/-- A compartment that is attached leaves the identifiers of the places where they are. -/
theorem attach_getElem?_id (roster : Roster) (slot : Nat) (compartment : Compartment) (i : Nat) :
    ((roster.attach slot compartment).places[i]?).map Place.id =
      (roster.places[i]?).map Place.id := by
  rw [attach, List.getElem?_modify]
  cases roster.places[i]? with
  | none => rfl
  | some place =>
    by_cases hslot : slot = i
    · simp [hslot]
    · simp [hslot]

/-- So the index stays true. -/
theorem WellIndexed.attach {roster : Roster} (h : roster.WellIndexed) (slot : Nat)
    (compartment : Compartment) : (roster.attach slot compartment).WellIndexed := by
  intro id i
  have hindex : (roster.attach slot compartment).slot? id = roster.slot? id := rfl
  rw [hindex, h id i, ← Option.map_eq_some_iff, ← Option.map_eq_some_iff, attach_getElem?_id]

end Roster

/-! ## Batches on the way -/

namespace Progress

/-- One more listing keeps the index true, whether it is kept or not. -/
theorem add_wellIndexed {progress : Progress} (h : progress.roster.WellIndexed)
    (listing : Listing) : (progress.add listing).value.roster.WellIndexed := by
  unfold add
  split
  · exact h
  · simp only
    split
    · exact h
    · exact h.attach _ _

/-- So do all listings. -/
theorem addAll_wellIndexed {progress : Progress} (h : progress.roster.WellIndexed)
    (listings : List Listing) : (progress.addAll listings).value.roster.WellIndexed := by
  induction listings generalizing progress with
  | nil => exact h
  | cons listing rest ih => exact ih (add_wellIndexed h listing)

/-- A batch when the first of its listings, `count` of them, have been taken in. -/
def during (places : List Reported.Place) (beside : List Reported.Compartment) (claims : Claims)
    (count : Nat) : Progress :=
  (Progress.addAll { roster := rosterOf places, seen := [], compartments := [], claims }
    ((listings places beside).take count)).value

/-- Listings are taken in after those before them. -/
theorem addAll_append (progress : Progress) (before after : List Listing) :
    (progress.addAll (before ++ after)).value =
      ((progress.addAll before).value.addAll after).value := by
  induction before generalizing progress with
  | nil => rfl
  | cons listing rest ih => exact ih (progress.add listing).value

section

variable (places : List Reported.Place) (beside : List Reported.Compartment) (claims : Claims)

/-- From each listing to the next the batch takes one step. -/
theorem during_succ {count : Nat} {listing : Listing}
    (h : (listings places beside)[count]? = some listing) :
    during places beside claims (count + 1) =
      ((during places beside claims count).add listing).value := by
  rw [during, List.take_add_one, h, addAll_append]
  rfl

/-- The last listing ends it. -/
theorem takePlaces_during :
    let last := during places beside claims (listings places beside).length
    (takePlaces places beside claims).value =
      (⟨last.roster.places, last.compartments⟩, last.claims) := by
  intro last
  simp only [last, during, List.take_length, takePlaces, Noted.value_bind, Noted.value_pure]
  rfl

theorem during_wellIndexed (count : Nat) :
    (during places beside claims count).roster.WellIndexed :=
  addAll_wellIndexed (rosterOf_wellIndexed places) _

end

end Progress

/-- All look-ups can be relied on while a batch is taken in: after some of the records of places,
and then after some of the listings of compartments. -/
structure ReliableThroughout (places : List Reported.Place) (beside : List Reported.Compartment)
    (claims : Claims) : Prop where
  placing : ∀ count, (rosterOf (places.take count)).Reliable
  filling : ∀ count, (Progress.during places beside claims count).roster.Reliable
  /-- The listings are taken in one by one, -/
  each : ∀ count listing, (listings places beside)[count]? = some listing →
    Progress.during places beside claims (count + 1) =
      ((Progress.during places beside claims count).add listing).value
  /-- and nothing comes after them. -/
  ends : let last := Progress.during places beside claims (listings places beside).length
    (takePlaces places beside claims).value = (⟨last.roster.places, last.compartments⟩, last.claims)

theorem takePlaces_reliable (places : List Reported.Place) (beside : List Reported.Compartment)
    (claims : Claims) : ReliableThroughout places beside claims := by
  constructor
  case placing =>
    intro count
    exact (rosterOf_wellIndexed (places.take count)).reliable
  case filling =>
    intro count
    exact (Progress.during_wellIndexed places beside claims count).reliable
  case each =>
    intro count listing h
    exact Progress.during_succ places beside claims h
  case ends => exact Progress.takePlaces_during places beside claims

/-! ## Payloads -/

/-- Payloads of a kind end with a fault only if they cannot be decoded, and with that of the
decoder. -/
def FailsOnlyToDecode {α β : Type} (read : Decode.Reader α) (takeIn : Json → Except Fault β) :
    Prop :=
  ∀ payload fault, takeIn payload = .error fault ↔
    ∃ error, read payload = .error error ∧ fault = .undecodable error.message

/-- So it is where something is made of whatever is decoded. -/
theorem IsMadeFrom.failsOnlyToDecode {α β : Type} {read : Decode.Reader α} {make : α → β}
    {takeIn : Json → Except Fault β} (h : IsMadeFrom read make takeIn) :
    FailsOnlyToDecode read takeIn := by
  intro payload fault
  exact h.eq_error_iff

/-- What is put behind a text does not change how it begins. -/
theorem head?_append_text {front : String} {c : Char} (h : front.toList.head? = some c)
    (back : String) : (front ++ back).toList.head? = some c := by
  rw [String.toList_append, List.head?_append, h]
  rfl

/-- How the faults of decoders begin. -/
theorem DecodeError.head?_message (error : DecodeError) :
    ∃ c ∈ ['i', 'm', 'd', 'u'], error.message.toList.head? = some c := by
  -- every message is a fixed text with the particulars behind it
  have hparts (front : String) {c : Char} (h : front.toList.head? = some c)
      (one two three : String) : (front ++ one ++ two ++ three).toList.head? = some c :=
    head?_append_text (head?_append_text (head?_append_text h one) two) three
  cases error with
  | wrongType found expected => exact ⟨'i', by decide, hparts "invalid type: " rfl _ _ _⟩
  | wrongValue found expected => exact ⟨'i', by decide, hparts "invalid value: " rfl _ _ _⟩
  | missingField name =>
    have hfirst : "missing field `".toList.head? = some 'm' := rfl
    exact ⟨'m', by decide, head?_append_text (head?_append_text hfirst name) "`"⟩
  | duplicateField name =>
    have hfirst : "duplicate field `".toList.head? = some 'd' := rfl
    exact ⟨'d', by decide, head?_append_text (head?_append_text hfirst name) "`"⟩
  | tooFewItems position title fields =>
    have htitle := hparts "invalid length " rfl (toString position) ", expected struct " title
    exact ⟨'i', by decide, hparts _ htitle " with " (toString fields) " elements"⟩
  | tooManyItems items =>
    have hfirst : "invalid length ".toList.head? = some 'i' := rfl
    have hitems := head?_append_text hfirst (toString items)
    exact ⟨'i', by decide, head?_append_text hitems ", expected fewer elements in array"⟩
  | neitherNumberNorText => exact ⟨'d', by decide, rfl⟩
  | unknownTag text known => exact ⟨'u', by decide, hparts "unknown variant `" rfl _ _ _⟩

/-- No payload is said to be without its place. -/
theorem Place.ofPayload_ne_missing (payload : Json) :
    Place.ofPayload payload ≠ .error (.undecodable "physical location missing from reply") := by
  intro h
  rcases Place.isMadeFrom.eq_error_iff.mp h with ⟨error, -, hfault⟩
  have hmessage : error.message = "physical location missing from reply" :=
    (Fault.undecodable.inj hfault).symm
  rcases error.head?_message with ⟨c, hc, hhead⟩
  -- messages of the decoder begin in other ways
  rw [hmessage] at hhead
  obtain rfl : 'p' = c := Option.some.inj hhead
  exact absurd hc (by decide)

/-- A place has the identifier that its payload gives. -/
theorem Place.id_of_ofPayload {payload : Json} {noted : Noted Place}
    (h : Place.ofPayload payload = .ok noted) :
    ("id", .text noted.value.id) ∈ Reported.Place.layout.entries payload := by
  rcases Place.isMadeFrom.exists_read h with ⟨raw, hread, rfl⟩
  rcases Decode.Layout.finds_of_read (by decide) hread with ⟨values, hfinds, rfl⟩
  have hid : (Decode.required "id" Decode.text).found
      (Reported.Place.layout.entries payload) = .ok values.1 := hfinds.1
  rcases Decode.required_of_found hid with ⟨value, hmem, htext⟩
  rw [Decode.text_eq_ok htext] at hmem
  exact hmem

/-- Payloads of every kind end with a fault only if they cannot be decoded. For a place that comes
alone this means that it is never missing after that, and it has the identifier that the payload
gives. Slots are reliable from the first record of a batch to the last listing. -/
theorem onlyDecodingFails :
    FailsOnlyToDecode Reported.Batch.layout.read Batch.ofPayload ∧
      FailsOnlyToDecode Reported.Place.layout.read Place.ofPayload ∧
      FailsOnlyToDecode (listOf Reported.Storefront.layout.read) Storefront.listOfPayload ∧
      FailsOnlyToDecode Reported.Storefront.layout.read Storefront.ofPayload ∧
      FailsOnlyToDecode Reported.Library.layout.read Library.ofPayload ∧
      (∀ payload, Place.ofPayload payload ≠
        .error (.undecodable "physical location missing from reply")) ∧
      (∀ payload noted, Place.ofPayload payload = .ok noted →
        ("id", .text noted.value.id) ∈ Reported.Place.layout.entries payload) ∧
      ∀ places beside claims, ReliableThroughout places beside claims := by
  refine ⟨?batch, ?place, ?storefronts, ?storefront, ?library, ?never, ?identifier, ?slots⟩
  case batch => exact Batch.isMadeFrom.failsOnlyToDecode
  case place => exact Place.isMadeFrom.failsOnlyToDecode
  case storefronts => exact Storefront.list_isMadeFrom.failsOnlyToDecode
  case storefront => exact Storefront.isMadeFrom.failsOnlyToDecode
  case library => exact Library.isMadeFrom.failsOnlyToDecode
  case never => exact Place.ofPayload_ne_missing
  case identifier =>
    intro payload noted h
    exact Place.id_of_ofPayload h
  case slots => exact takePlaces_reliable

/-- A place whose record comes twice, with a shelf, and a second place. -/
def repeatedPlaces : List Reported.Place :=
  let shelf : Reported.Compartment :=
    ⟨"shelf", "Shelf", none, none, none, none, none, none, none, none⟩
  let home : Reported.Place := ⟨"home", "Home", none, none, none, [shelf], none, none⟩
  [home, home, { home with id := "office", compartments := [] }]

/-- After the shelf was put into the first place the index has slot 1 for the second one, and that
place is there. A place that comes alone, as the list of its values, has their first one. -/
theorem repeatedPlaces_reliable :
    let roster := (Progress.during repeatedPlaces [] .none 1).roster
    let payload : Json :=
      .list [.text "home", .text "Home", .null, .null, .null, .list [], .null, .null]
    roster.slot? "office" = some 1 ∧
      (∃ _ : 1 < roster.places.length, roster.places[1].id = "office") ∧
      ∃ noted, Place.ofPayload payload = .ok noted ∧
        ("id", .text noted.value.id) ∈ Reported.Place.layout.entries payload := by
  intro roster payload
  rcases onlyDecodingFails with ⟨-, -, -, -, -, -, hidentifier, hslots⟩
  have hslot : roster.slot? "office" = some 1 := by decide +kernel
  have hreliable : roster.Reliable := (hslots repeatedPlaces [] .none).filling 1
  have htaken : ∃ noted, Place.ofPayload payload = .ok noted := ⟨_, rfl⟩
  rcases htaken with ⟨noted, hnoted⟩
  exact ⟨hslot, hreliable.slot_holds "office" 1 hslot, noted, hnoted,
    hidentifier payload noted hnoted⟩

end GameShelf
