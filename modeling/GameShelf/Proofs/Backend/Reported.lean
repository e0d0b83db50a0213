import GameShelf.Intake.Payload
import GameShelf.Proofs.Backend.Delivery
import GameShelf.Proofs.Decode.Counts
import GameShelf.Proofs.Decode.Found

/-!
# Records as they are reported

What the backend keeps of places and compartments arrives as it was written, for there are no
doubles in it, and all of it can be decoded.

* `Backend.Compartment.reported`, `Backend.Place.reported`: the records that the client decodes.
* `Compartment.read_reported`, `Place.read_reported`, `Place.read_withCompartments`: it decodes
  them.
* `Store.delivered_batch`, `Store.delivered_getPlace`: what arrives of all places, and of one.
-/

namespace GameShelf

open Decode (nullable_of_ok)
open Json (reread toInternal)
open Rehearsal (replyOf)

namespace Backend

/-! ## No doubles -/

theorem reread_optionalText (t : Option String) :
    reread (Json.optionalText t) = some (Json.optionalText t) := by
  cases t <;> rfl

theorem Place.reread_fields (place : Place) :
    ∀ field ∈ place.fields, reread field.2 = some field.2 := by
  intro field hmem
  simp only [fields, List.mem_cons, List.not_mem_nil, or_false] at hmem
  rcases hmem with rfl | rfl | rfl | rfl | rfl | rfl | rfl
  all_goals first | rfl | exact reread_optionalText _

theorem Place.reread_toJson (place : Place) : reread place.toJson = some place.toJson :=
  Json.reread_recordOf place.reread_fields

theorem Compartment.reread_toJson (compartment : Compartment) :
    reread compartment.toJson = some compartment.toJson := by
  have hcount : compartment.storedItems.toNat < UInt64.size :=
    Nat.lt_trans compartment.storedItems.toNat_lt (by decide)
  apply Json.reread_recordOf
  intro field hmem
  simp only [List.mem_cons, List.not_mem_nil, or_false] at hmem
  rcases hmem with rfl | rfl | rfl | rfl | rfl | rfl | rfl | rfl | rfl
  all_goals first | rfl | exact reread_optionalText _ | exact Json.reread_nat hcount

/-- Written records in a list are read as they were written. -/
theorem reread_map {α : Type} {write : α → Json} (h : ∀ a, reread (write a) = some (write a))
    (list : List α) : reread (.list (list.map write)) = some (.list (list.map write)) := by
  apply Json.reread_list
  intro item hitem
  rcases List.mem_map.mp hitem with ⟨a, -, rfl⟩
  exact h a

theorem Place.reread_withCompartments (place : Place) (compartments : List Compartment) :
    reread (place.withCompartments compartments) =
      some (place.withCompartments compartments) := by
  apply Json.reread_recordOf
  intro field hmem
  rcases List.mem_append.mp hmem with hmem | hmem
  · exact place.reread_fields field hmem
  · rw [List.mem_singleton.mp hmem]
    exact reread_map Compartment.reread_toJson _

/-- The overview is read as it was written. -/
theorem Store.reread_batchData (store : Store) : reread store.batchData = some store.batchData := by
  apply Json.reread_recordOf
  intro field hmem
  simp only [List.mem_cons, List.not_mem_nil, or_false] at hmem
  rcases hmem with rfl | rfl
  · exact reread_map Place.reread_toJson store.places
  · exact reread_map Compartment.reread_toJson store.compartments

/-! ## Internal spelling -/

theorem toInternal_optionalText (t : Option String) :
    Json.mapKeys toCamel (Json.optionalText t) = Json.optionalText t := by
  cases t <;> rfl

/-- Records in a list are respelled one by one. -/
theorem toInternal_map {α : Type} (write : α → Json) (list : List α) :
    Json.mapKeys toCamel (.list (list.map write)) =
      .list (list.map fun a => (write a).toInternal) := by
  rw [Json.mapKeys, Json.mapKeysItems_eq_map, List.map_map]
  rfl

/-- The keys of places and compartments in internal spelling. -/
theorem toCamel_keys :
    toCamel "id" = "id" ∧ toCamel "name" = "name" ∧ toCamel "location_type" = "locationType" ∧
      toCamel "map_coordinates" = "mapCoordinates" ∧ toCamel "description" = "description" ∧
      toCamel "parent_location_id" = "parentLocationId" ∧ toCamel "bg_color" = "bgColor" ∧
      toCamel "stored_items" = "storedItems" ∧ toCamel "sublocations" = "sublocations" ∧
      toCamel "physical_locations" = "physicalLocations" ∧
      toCamel "created_at" = "createdAt" ∧ toCamel "updated_at" = "updatedAt" := by
  decide

/-- A compartment in internal spelling. -/
theorem Compartment.toInternal_toJson (compartment : Compartment) :
    compartment.toJson.toInternal = .record
      [("bgColor", Json.optionalText compartment.color),
       ("createdAt", .text compartment.created),
       ("description", Json.optionalText compartment.description),
       ("id", .text compartment.id),
       ("locationType", .text compartment.kind),
       ("name", .text compartment.name),
       ("parentLocationId", .text compartment.placeId),
       ("storedItems", .nat compartment.storedItems.toNat),
       ("updatedAt", .text compartment.updated)] := by
  rcases toCamel_keys with ⟨hid, hname, hkind, -, hdescription, hplace, hcolor, hitems, -, -,
    hcreated, hupdated⟩
  simp only [toJson, toInternal, Json.recordOf, Json.mapKeys, Json.mapKeysFields, hid, hname,
    hkind, hdescription, hplace, hcolor, hitems, hcreated, hupdated, toInternal_optionalText,
    Json.nat, Json.ofFields, List.foldl_cons, List.foldl_nil, Json.insert, String.reduceLT,
    String.reduceEq, if_true, if_false]

/-- A place in internal spelling. -/
theorem Place.toInternal_toJson (place : Place) :
    place.toJson.toInternal = .record
      [("bgColor", Json.optionalText place.color),
       ("createdAt", .text place.created),
       ("id", .text place.id),
       ("locationType", .text place.kind),
       ("mapCoordinates", Json.optionalText place.coordinates),
       ("name", .text place.name),
       ("updatedAt", .text place.updated)] := by
  rcases toCamel_keys with ⟨hid, hname, hkind, hcoordinates, -, -, hcolor, -, -, -, hcreated,
    hupdated⟩
  simp only [toJson, fields, toInternal, Json.recordOf, Json.mapKeys, Json.mapKeysFields, hid,
    hname, hkind, hcoordinates, hcolor, hcreated, hupdated, toInternal_optionalText,
    Json.ofFields, List.foldl_cons, List.foldl_nil, Json.insert, String.reduceLT,
    String.reduceEq, if_true, if_false]

/-- A place with its compartments in internal spelling. -/
theorem Place.toInternal_withCompartments (place : Place) (compartments : List Compartment) :
    (place.withCompartments compartments).toInternal = .record
      [("bgColor", Json.optionalText place.color),
       ("createdAt", .text place.created),
       ("id", .text place.id),
       ("locationType", .text place.kind),
       ("mapCoordinates", Json.optionalText place.coordinates),
       ("name", .text place.name),
       ("sublocations",
        .list ((compartments.filter fun compartment => compartment.placeId == place.id).map
          fun compartment => compartment.toJson.toInternal)),
       ("updatedAt", .text place.updated)] := by
  rcases toCamel_keys with ⟨hid, hname, hkind, hcoordinates, -, -, hcolor, -, hcompartments, -,
    hcreated, hupdated⟩
  simp only [withCompartments, fields, toInternal, Json.recordOf, Json.mapKeys,
    Json.mapKeysFields, hid, hname, hkind, hcoordinates, hcolor, hcompartments, hcreated,
    hupdated, toInternal_optionalText, Json.mapKeysItems_eq_map, List.map_map,
    List.cons_append, List.nil_append, Json.ofFields, List.foldl_cons, List.foldl_nil,
    Json.insert, String.reduceLT, String.reduceEq, if_true, if_false]
  rfl

/-- The overview in internal spelling. -/
theorem Store.toInternal_batchData (store : Store) :
    store.batchData.toInternal = .record
      [("physicalLocations", .list (store.places.map fun place => place.toJson.toInternal)),
       ("sublocations",
        .list (store.compartments.map fun compartment => compartment.toJson.toInternal))] := by
  rcases toCamel_keys with ⟨-, -, -, -, -, -, -, -, hcompartments, hplaces, -, -⟩
  simp only [batchData, Json.recordOf, toInternal, Json.mapKeys, Json.mapKeysFields, hplaces,
    hcompartments, Json.ofFields, List.foldl_cons, List.foldl_nil, Json.insert, String.reduceLT,
    if_false, String.reduceEq, Json.mapKeysItems_eq_map, List.map_map]
  rfl

/-! ## Decoded records -/

/-- A compartment as the client decodes it. -/
def Compartment.reported (compartment : Compartment) : Reported.Compartment where
  id := compartment.id
  name := compartment.name
  kind := some compartment.kind
  placeId := some compartment.placeId
  description := compartment.description
  color := compartment.color
  storedItems :=
    (Decode.NumberOrText.number
      (JsonNumber.integer compartment.storedItems.toNat).toBinary64).count?
  games := none
  created := some compartment.created
  updated := some compartment.updated

/-- A place as the client decodes it, with the compartments in its record. -/
def Place.reported (place : Place) (inside : List Compartment) : Reported.Place where
  id := place.id
  name := place.name
  kind := some place.kind
  coordinates := place.coordinates
  color := place.color
  compartments := inside.map Compartment.reported
  created := some place.created
  updated := some place.updated

theorem nullable_optionalText (t : Option String) :
    Decode.nullable Decode.text (Json.optionalText t) = .ok t := by
  cases t <;> rfl

/-- The record of a compartment can be decoded, whatever its count is. -/
theorem read_compartment {id name kind placeId created updated : String}
    {description color : Option String} {count : Json} {stored : Option UInt64}
    (hcount : Decode.count count = .ok stored) :
    Reported.Compartment.layout.read (.record
      [("bgColor", Json.optionalText color), ("createdAt", .text created),
       ("description", Json.optionalText description), ("id", .text id),
       ("locationType", .text kind), ("name", .text name), ("parentLocationId", .text placeId),
       ("storedItems", count), ("updatedAt", .text updated)]) =
      .ok ⟨id, name, some kind, some placeId, description, color, stored, none, some created,
        some updated⟩ :=
  Reported.Compartment.layout.read_of_finds
    (id, name, some kind, some placeId, description, color, stored, none, some created,
      some updated, ()) (by decide)
    ⟨rfl, rfl, rfl, rfl, nullable_optionalText description, nullable_optionalText color, hcount,
      rfl, rfl, rfl, trivial⟩

/-- A compartment can be decoded. -/
theorem Compartment.read_reported (compartment : Compartment) :
    Reported.Compartment.layout.read compartment.toJson.toInternal = .ok compartment.reported := by
  rw [toInternal_toJson]
  exact read_compartment (Decode.count_eq rfl)

/-- A list of records that can be decoded can be decoded. -/
theorem items_map {α β : Type} {read : Decode.Reader α} {write : β → Json} {result : β → α}
    (h : ∀ b, read (write b) = .ok (result b)) (list : List β) :
    Decode.items read (list.map write) = .ok (list.map result) := by
  induction list with
  | nil => rfl
  | cons b rest ih =>
    rw [List.map_cons, Decode.items, h b, ih]
    rfl

/-- The compartments of a list can be decoded. -/
theorem read_compartments (compartments : List Compartment) :
    Decode.listOf Reported.Compartment.layout.read
        (.list (compartments.map fun compartment => compartment.toJson.toInternal)) =
      .ok (compartments.map Compartment.reported) :=
  items_map Compartment.read_reported compartments

/-- A place without its compartments can be decoded. -/
theorem Place.read_reported (place : Place) :
    Reported.Place.layout.read place.toJson.toInternal = .ok (place.reported []) := by
  rw [toInternal_toJson]
  exact Reported.Place.layout.read_of_finds
    (place.id, place.name, some place.kind, place.coordinates, place.color, [],
      some place.created, some place.updated, ()) (by decide)
    ⟨rfl, rfl, rfl, nullable_optionalText place.coordinates, nullable_optionalText place.color,
      rfl, rfl, rfl, trivial⟩

/-- So can a place with its compartments. -/
theorem Place.read_withCompartments (place : Place) (compartments : List Compartment) :
    Reported.Place.layout.read (place.withCompartments compartments).toInternal =
      .ok (place.reported
        (compartments.filter fun compartment => compartment.placeId == place.id)) := by
  rw [toInternal_withCompartments]
  have hinside := read_compartments
    (compartments.filter fun compartment => compartment.placeId == place.id)
  -- which compartments these are does not matter any more
  generalize (compartments.filter fun compartment => compartment.placeId == place.id) = inside
    at hinside ⊢
  exact Reported.Place.layout.read_of_finds
    (place.id, place.name, some place.kind, place.coordinates, place.color,
      inside.map Compartment.reported, some place.created, some place.updated, ()) (by decide)
    ⟨rfl, rfl, rfl, nullable_optionalText place.coordinates, nullable_optionalText place.color,
      hinside, rfl, rfl, trivial⟩

/-! ## What arrives -/

/-- The overview arrives as it was written. -/
theorem Store.delivered_batch (store : Store) :
    (replyOf store.batch).data = .ok store.batchData.toInternal := by
  have hstatus : isSuccess 200 = true := rfl
  have hdata := data_replyOf_success hstatus store.fits_batchData
  have hsame := store.reread_batchData
  rw [Store.batchData] at hsame
  rw [hsame] at hdata
  exact hdata

/-- The overview can be decoded. -/
theorem Store.read_batchData (store : Store) :
    Reported.Batch.layout.read store.batchData.toInternal =
      .ok ⟨some (store.places.map fun place => place.reported []),
        some (store.compartments.map Compartment.reported)⟩ := by
  rw [toInternal_batchData]
  have hplaces : Decode.listOf Reported.Place.layout.read
      (.list (store.places.map fun place => place.toJson.toInternal)) =
        .ok (store.places.map fun place => place.reported []) :=
    items_map Place.read_reported store.places
  have hcompartments := read_compartments store.compartments
  exact Reported.Batch.layout.read_of_finds
    (some (store.places.map fun place : Place => place.reported []),
      some (store.compartments.map Compartment.reported), ()) (by decide)
    ⟨nullable_of_ok (by simp) hplaces, nullable_of_ok (by simp) hcompartments, trivial⟩

/-- An operation that stopped leaves no data. -/
theorem data_stopped : ∃ fault, (replyOf .stopped).data = .error fault :=
  ⟨_, rfl⟩

/-- If data arrives for the library, the backend has counted it. -/
theorem Store.library_of_data (store : Store) {payload : Json}
    (h : (replyOf store.library).data = .ok payload) :
    ∃ items, store.library = .ok (store.libraryData items) := by
  rw [library] at h ⊢
  cases hdata : store.libraryData? with
  | none =>
    rcases data_stopped with ⟨fault, hfault⟩
    rw [hdata] at h
    exact absurd (hfault.symm.trans h) (by simp)
  | some data =>
    rcases Option.map_eq_some_iff.mp hdata with ⟨items, -, rfl⟩
    exact ⟨items, rfl⟩

/-- If the library arrives and can be decoded, its places and compartments are those of the
store. -/
theorem Store.read_libraryData (store : Store) {payload : Json} {raw : Reported.Library}
    (hdata : (replyOf store.library).data = .ok payload)
    (hread : Reported.Library.layout.read payload = .ok raw) :
    raw.places = some (store.places.map fun place => place.reported []) ∧
      raw.compartments = some (store.compartments.map Compartment.reported) := by
  have hstatus : isSuccess 200 = true := rfl
  rcases store.library_of_data hdata with ⟨items, hlibrary⟩
  rw [hlibrary] at hdata
  -- amounts of storefronts may be read as other doubles, so only these two fields are followed
  rcases fields_of_delivered hstatus (store.fits_libraryData items)
    ["physical_locations", "sublocations", "digital_locations", "totals"] rfl (by decide) hdata with
    ⟨internal, rfl, hfields⟩
  rcases Decode.Layout.read_record hread with ⟨values, hgives, rfl⟩
  constructor
  · rcases hfields "physical_locations" (.list (store.places.map Place.toJson)) (by simp) with
      ⟨again, hagain, hmem⟩
    rw [reread_map Place.reread_toJson] at hagain
    obtain rfl := Option.some.inj hagain
    rw [toInternal, toInternal_map] at hmem
    rcases exists_of_map_eq_ok (hgives.head hmem (by decide)) with ⟨list, hlist, hsome⟩
    obtain rfl := Except.ok.inj (hlist.symm.trans (items_map Place.read_reported store.places))
    exact hsome.symm
  · rcases hfields "sublocations" (.list (store.compartments.map Compartment.toJson)) (by simp) with
      ⟨again, hagain, hmem⟩
    rw [reread_map Compartment.reread_toJson] at hagain
    obtain rfl := Option.some.inj hagain
    rw [toInternal, toInternal_map] at hmem
    rcases exists_of_map_eq_ok (hgives.second hmem (by decide) (by decide)) with
      ⟨list, hlist, hsome⟩
    obtain rfl := Except.ok.inj (hlist.symm.trans (read_compartments store.compartments))
    exact hsome.symm

/-- A place arrives with its compartments as it was written. -/
theorem delivered_withCompartments {status : Nat} (hstatus : isSuccess status = true)
    (place : Place) (compartments : List Compartment) :
    (replyOf ⟨status, some (Answer.success (place.withCompartments compartments))⟩).data =
      .ok (place.withCompartments compartments).toInternal := by
  have hdata := data_replyOf_success hstatus (place.fits_withCompartments compartments)
  have hsame := place.reread_withCompartments compartments
  rw [Place.withCompartments] at hsame
  rw [hsame] at hdata
  exact hdata

/-- What is not there has no data. -/
theorem data_locationNotFound : (replyOf locationNotFound).data = .error .notFound :=
  rfl

/-- What is answered about a place has its compartments. -/
theorem Store.delivered_getPlace (store : Store) {id : String} {data : Json}
    (h : (replyOf (store.getPlace id)).data = .ok data) :
    ∃ place, store.findPlace? id = some place ∧
      data = (place.withCompartments store.compartments).toInternal := by
  rw [getPlace] at h
  cases hplace : store.findPlace? id with
  | none =>
    simp only [hplace, data_locationNotFound] at h
    exact absurd h (by simp)
  | some place =>
    simp only [hplace] at h
    have hstatus : isSuccess 200 = true := rfl
    have hdelivered := delivered_withCompartments hstatus place store.compartments
    exact ⟨place, rfl, Except.ok.inj (h.symm.trans hdelivered)⟩

/-- What is answered about a storefront names it. -/
theorem Store.delivered_getStorefront (store : Store) {id : String} {data : Json}
    (h : (replyOf (store.getStorefront id)).data = .ok data) :
    ∃ record, data = .record record ∧ ("id", .text id) ∈ record := by
  rw [getStorefront] at h
  cases hstorefront : store.storefronts.find? fun storefront => storefront.id == id with
  | none =>
    simp only [hstorefront, data_locationNotFound] at h
    exact absurd h (by simp)
  | some storefront =>
    simp only [hstorefront] at h
    have htest := List.find?_some hstorefront
    have hid : storefront.id = id := beq_iff_eq.mp htest
    have hcreated : (replyOf (.created storefront.toJson)).data = .ok data := h
    exact hid ▸ id_of_storefrontCreated hcreated

end Backend

end GameShelf
