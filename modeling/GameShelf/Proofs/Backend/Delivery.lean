import GameShelf.Backend.Store
import GameShelf.Client.Send
import GameShelf.Proofs.Decode.Record
import GameShelf.Proofs.Json.KeyCase
import GameShelf.Rehearsal.Basic

/-!
# Data on its way from the backend

What the backend answers is written, read by the client, and taken out of its envelope. The
numbers of the data are read anew on the way; nothing else happens to it.

* `data_replyOf_success`: what arrives of a record that is answered.
* `fields_of_delivered`: what arrives of its fields. Texts arrive as they were, so that the answers
  to changes name what they were about.
-/

namespace GameShelf

open Json (Fits Fields recordOf reread maxOpen)
open Rehearsal (replyOf)

namespace Backend

/-! ## Records fit -/

theorem fits_text {bound : Nat} (t : String) : Fits bound (.text t) :=
  ⟨trivial, Nat.zero_le bound⟩

theorem fits_flag {bound : Nat} (value : Bool) : Fits bound (.flag value) :=
  ⟨trivial, Nat.zero_le bound⟩

theorem fits_nat {bound : Nat} (n : Nat) : Fits bound (.nat n) :=
  ⟨trivial, Nat.zero_le bound⟩

theorem fits_optionalText {bound : Nat} (t : Option String) : Fits bound (Json.optionalText t) := by
  cases t <;> exact ⟨trivial, Nat.zero_le bound⟩

theorem fits_optionalDouble {bound : Nat} (x : Option Binary64) :
    Fits bound (Json.optional Json.double x) := by
  cases x with
  | none => exact ⟨trivial, Nat.zero_le bound⟩
  | some x =>
    rw [Json.optional, Json.double]
    split <;> exact ⟨trivial, Nat.zero_le bound⟩

/-- Written records in a list fit if each of them does. -/
theorem fits_map {α : Type} {write : α → Json} {bound : Nat} (h : ∀ a, Fits bound (write a))
    (list : List α) : Fits (bound + 1) (.list (list.map write)) := by
  apply Json.fits_list
  intro item hitem
  rcases List.mem_map.mp hitem with ⟨a, -, rfl⟩
  exact h a

theorem Place.fits_fields (place : Place) {bound : Nat} :
    ∀ field ∈ place.fields, Fits bound field.2 := by
  intro field hmem
  simp only [fields, List.mem_cons, List.not_mem_nil, or_false] at hmem
  rcases hmem with rfl | rfl | rfl | rfl | rfl | rfl | rfl
  all_goals first | exact fits_text _ | exact fits_optionalText _

theorem Place.fits_toJson (place : Place) {bound : Nat} : Fits (bound + 1) place.toJson :=
  Json.fits_recordOf place.fits_fields

theorem Compartment.fits_toJson (compartment : Compartment) {bound : Nat} :
    Fits (bound + 1) compartment.toJson := by
  apply Json.fits_recordOf
  intro field hmem
  simp only [List.mem_cons, List.not_mem_nil, or_false] at hmem
  rcases hmem with rfl | rfl | rfl | rfl | rfl | rfl | rfl | rfl | rfl
  all_goals first | exact fits_text _ | exact fits_optionalText _ | exact fits_nat _

theorem Place.fits_withCompartments (place : Place) (compartments : List Compartment)
    {bound : Nat} :
    Fits (bound + 3) (place.withCompartments compartments) := by
  apply Json.fits_recordOf
  intro field hmem
  rcases List.mem_append.mp hmem with hmem | hmem
  · exact place.fits_fields field hmem
  · rw [List.mem_singleton.mp hmem]
    exact fits_map (fun compartment => compartment.fits_toJson) _

theorem Game.fits_toJson (game : Game) {bound : Nat} : Fits (bound + 1) game.toJson := by
  apply Json.fits_recordOf
  intro field hmem
  simp only [List.mem_cons, List.not_mem_nil, or_false] at hmem
  rcases hmem with rfl | rfl | rfl | rfl
  all_goals first | exact fits_text _ | exact fits_optionalText _

theorem Storefront.fits_toJson (storefront : Storefront) {bound : Nat} :
    Fits (bound + 3) storefront.toJson := by
  have hgames : Fits (bound + 2) (.list (storefront.games.map Game.toJson)) :=
    fits_map (fun game => game.fits_toJson) storefront.games
  apply Json.fits_recordOf
  intro field hmem
  simp only [List.mem_cons, List.not_mem_nil, or_false] at hmem
  rcases hmem with rfl | rfl | rfl | rfl | rfl | rfl | rfl | rfl | rfl | rfl | rfl | rfl
  all_goals
    first
    | exact fits_text _ | exact fits_optionalText _ | exact fits_flag _
    | exact fits_optionalDouble _ | exact hgames

theorem Store.fits_batchData (store : Store) {bound : Nat} : Fits (bound + 3) store.batchData := by
  apply Json.fits_recordOf
  intro field hmem
  simp only [List.mem_cons, List.not_mem_nil, or_false] at hmem
  rcases hmem with rfl | rfl
  · exact fits_map (fun place => place.fits_toJson) store.places
  · exact fits_map (fun compartment => compartment.fits_toJson) store.compartments

theorem Store.fits_libraryData (store : Store) (items : Nat) {bound : Nat} :
    Fits (bound + 5) (store.libraryData items) := by
  have htotals : Fits (bound + 4) (store.totals items) := by
    apply Json.fits_recordOf
    intro field hmem
    simp only [List.mem_cons, List.not_mem_nil, or_false] at hmem
    rcases hmem with rfl | rfl
    all_goals exact fits_nat _
  apply Json.fits_recordOf
  intro field hmem
  simp only [List.mem_cons, List.not_mem_nil, or_false] at hmem
  rcases hmem with rfl | rfl | rfl | rfl
  · exact fits_map (fun place => place.fits_toJson) store.places
  · exact fits_map (fun compartment => compartment.fits_toJson) store.compartments
  · exact fits_map (fun storefront => storefront.fits_toJson) store.storefronts
  · exact htotals

/-! ## Envelopes -/

/-- The envelope of a success, its fields in order. -/
theorem Answer.success_eq (data : Json) :
    success data = .record [("data", data), ("success", .flag true)] := by
  have hlt : "data" < "success" := by decide
  simp only [success, recordOf, Json.ofFields, List.foldl_cons, List.foldl_nil, Json.insert,
    if_pos hlt]

theorem Answer.fits_success {data : Json} {bound : Nat} (h : Fits bound data) :
    Fits (bound + 1) (success data) := by
  apply Json.fits_recordOf
  intro field hmem
  simp only [List.mem_cons, List.not_mem_nil, or_false] at hmem
  rcases hmem with rfl | rfl
  · exact fits_flag true
  · exact h

/-- An envelope is read anew with its data. -/
theorem Answer.reread_success (data : Json) :
    reread (success data) = (reread data).map success := by
  rw [success_eq, reread, Json.rereadFields]
  cases reread data with
  | none => rfl
  | some read =>
    rw [Option.map_some, success_eq]
    rfl

end Backend

open Backend

/-- The envelope of a success with a record has the record as its data. -/
theorem Envelope.unwrap_success (fields : Fields) :
    unwrap (Answer.success (.record fields)) = .ok (.record fields) := by
  rw [Answer.success_eq]
  rfl

/-- A record that is answered arrives with its numbers read anew, or it cannot be read. -/
theorem data_replyOf_success {status : Nat} (hstatus : isSuccess status = true) {fields : Fields}
    (h : Fits 5 (recordOf fields)) :
    (replyOf ⟨status, some (Answer.success (recordOf fields))⟩).data =
      match reread (recordOf fields) with
      | some data => .ok data.toInternal
      | none => .error (.protocolViolation "response body is not JSON") := by
  have hfits : Fits maxOpen (Answer.success (recordOf fields)) := by
    rcases Answer.fits_success h with ⟨hsorted, hshallow⟩
    exact ⟨hsorted, Nat.le_trans hshallow (by decide)⟩
  -- of a success only the text counts
  have hdata : (replyOf ⟨status, some (Answer.success (recordOf fields))⟩).data =
      (Envelope.unwrapText (Json.write (Answer.success (recordOf fields)))).map Json.toInternal :=
    if_pos hstatus
  rw [hdata, Envelope.unwrapText, Json.parse?_write hfits, Answer.reread_success]
  cases hread : reread (recordOf fields) with
  | none => rfl
  | some data =>
    rw [recordOf, reread] at hread
    rcases Option.map_eq_some_iff.mp hread with ⟨read, -, rfl⟩
    simp only [Option.map_some, Envelope.unwrap_success]
    rfl

/-- If a record arrives that was answered, its fields arrive with their values read anew. -/
theorem fields_of_delivered {status : Nat} (hstatus : isSuccess status = true) {fields : Fields}
    (hfits : Fits 5 (recordOf fields)) (keys : List String) (hkeys : fields.map Prod.fst = keys)
    (hnodup : (keys.map toCamel).Nodup) {payload : Json}
    (h : (replyOf ⟨status, some (Answer.success (recordOf fields))⟩).data = .ok payload) :
    ∃ internal, payload = .record internal ∧
      ∀ key value, (key, value) ∈ fields →
        ∃ again, reread value = some again ∧ (toCamel key, again.toInternal) ∈ internal := by
  rw [data_replyOf_success hstatus hfits] at h
  cases hread : reread (recordOf fields) with
  | none =>
    rw [hread] at h
    exact absurd h (by simp)
  | some data =>
    rw [hread] at h
    obtain rfl := Except.ok.inj h
    exact Json.toInternal_reread (hkeys ▸ hnodup) hread

/-- Its texts arrive as they were. -/
theorem texts_of_delivered {status : Nat} (hstatus : isSuccess status = true) {fields : Fields}
    (hfits : Fits 5 (recordOf fields)) (keys : List String) (hkeys : fields.map Prod.fst = keys)
    (hnodup : (keys.map toCamel).Nodup) {payload : Json}
    (h : (replyOf ⟨status, some (Answer.success (recordOf fields))⟩).data = .ok payload) :
    ∃ internal, payload = .record internal ∧
      ∀ key t, (key, .text t) ∈ fields → (toCamel key, .text t) ∈ internal := by
  rcases fields_of_delivered hstatus hfits keys hkeys hnodup h with ⟨internal, hpayload, hfields⟩
  refine ⟨internal, hpayload, ?_⟩
  intro key t hmem
  rcases hfields key (.text t) hmem with ⟨again, hagain, hin⟩
  obtain rfl := Option.some.inj hagain
  exact hin

/-! ## What answers name -/

section

variable {payload : Json}

/-- The answer to the creation of a place names the place. -/
theorem id_of_placeCreated {place : Backend.Place} {compartments : List Backend.Compartment}
    (h : (replyOf (.created (place.withCompartments compartments))).data = .ok payload) :
    ∃ record, payload = .record record ∧ ("id", .text place.id) ∈ record := by
  have hstatus : isSuccess 201 = true := rfl
  obtain ⟨record, hrecord, htexts⟩ := texts_of_delivered hstatus
    (place.fits_withCompartments compartments)
    ["id", "name", "location_type", "map_coordinates", "bg_color", "created_at", "updated_at",
      "sublocations"] rfl (by decide) h
  exact ⟨record, hrecord, htexts "id" place.id List.mem_cons_self⟩

/-- The answer to the creation of a storefront names the storefront. -/
theorem id_of_storefrontCreated {storefront : Backend.Storefront}
    (h : (replyOf (.created storefront.toJson)).data = .ok payload) :
    ∃ record, payload = .record record ∧ ("id", .text storefront.id) ∈ record := by
  have hstatus : isSuccess 201 = true := rfl
  obtain ⟨record, hrecord, htexts⟩ := texts_of_delivered hstatus storefront.fits_toJson
    ["id", "name", "location_type", "is_subscription", "is_active", "monthly_cost",
      "billing_cycle", "next_payment_date", "payment_method", "items", "created_at",
      "updated_at"] rfl (by decide) h
  exact ⟨record, hrecord, htexts "id" storefront.id List.mem_cons_self⟩

/-- The answer to the creation of a compartment names the compartment and its place. -/
theorem names_of_compartmentCreated {compartment : Backend.Compartment}
    (h : (replyOf (.created compartment.toJson)).data = .ok payload) :
    ∃ record, payload = .record record ∧ ("id", .text compartment.id) ∈ record ∧
      ("parentLocationId", .text compartment.placeId) ∈ record := by
  have hstatus : isSuccess 201 = true := rfl
  obtain ⟨record, hrecord, htexts⟩ := texts_of_delivered hstatus compartment.fits_toJson
    ["id", "name", "location_type", "parent_location_id", "description", "bg_color",
      "stored_items", "created_at", "updated_at"] rfl (by decide) h
  exact ⟨record, hrecord, htexts "id" compartment.id List.mem_cons_self,
    htexts "parent_location_id" compartment.placeId (by simp)⟩

/-- The answer to the deletion of a compartment names its place. -/
theorem placeId_of_compartmentDeleted {id placeId : String}
    (h : (replyOf (.ok (recordOf
      [("id", .text id), ("parent_location_id", .text placeId)]))).data = .ok payload) :
    ∃ record, payload = .record record ∧ ("parentLocationId", .text placeId) ∈ record := by
  have hstatus : isSuccess 200 = true := rfl
  have hfits : Fits 5 (recordOf [("id", .text id), ("parent_location_id", .text placeId)]) := by
    apply Json.fits_recordOf
    intro field hmem
    simp only [List.mem_cons, List.not_mem_nil, or_false] at hmem
    rcases hmem with rfl | rfl
    all_goals exact fits_text _
  rcases texts_of_delivered hstatus hfits ["id", "parent_location_id"] rfl (by decide) h with
    ⟨record, hrecord, htexts⟩
  exact ⟨record, hrecord, htexts "parent_location_id" placeId (by simp)⟩

end

end GameShelf
