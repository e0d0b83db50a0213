import GameShelf.Proofs.Backend.Afterwards
import GameShelf.Proofs.Backend.Written
import GameShelf.Proofs.Client.Contents
import GameShelf.Proofs.Client.Entities
import GameShelf.Proofs.Tag.Wire

/-!
# Changes are read back

What a change returned is what is seen from then on. A place or a storefront that was created or
altered is shown as it was returned, in every field; a compartment that was created is in the
overview once, as it was asked for; what was deleted is not found, and its compartments are in no
view.

* `View.ReadsAs`, `Unseen`: what is seen of a store, and what is not.
* `Collection.Accepts`: identifiers that the route of an entity takes.
* `Change.ReadsBack`: what a change leaves to be seen.
* `Change.run_readsBack`: it is seen after every change that succeeds.
-/

namespace GameShelf

open Backend (Server Store decodeBody decodeBody_refusal orRefuse perform)
open Backend.Route (ofPath?)
open Rehearsal (arriving replyOf)
open Text (encodeSegment)

variable {κ : Type}

/-! ## What is seen -/

/-- Whoever is admitted to a server with a store sees a view as a result, and whoever is not gets to
know why. -/
def View.ReadsAs (view : View) (store : Store) (result : Result view.Content) : Prop :=
  ∃ request, view.request = .ok request ∧
    ∀ {ι : Type} (viewer : Settings) (looker : Custodian ι) (eye : ι) (shop : Server),
      shop.store = store →
      ((view.fetch viewer).runIn (backed viewer.base looker) (eye, shop)).result =
        (admission viewer request looker eye shop.token).bind fun _ => result

/-- A compartment is in no view of a server with a store. -/
def Unseen (store : Store) (compartment : String) : Prop :=
  ∀ {ι : Type} (viewer : Settings) (looker : Custodian ι) (eye : ι) (shop : Server),
    shop.store = store → ∀ (view : View) (content : view.Content),
      ((view.fetch viewer).runIn (backed viewer.base looker) (eye, shop)).result = .ok content →
      compartment ∉ view.compartmentIds content

/-- A view reads as what is made of the answer for it. -/
theorem View.readsAs_of_answer {view : View} {request : Request} {store : Store}
    {result : Result view.Content} (hrequest : view.request = .ok request)
    (hresult : takenIn view.read (replyOf (view.answer store)).data = result) :
    view.ReadsAs store result := by
  refine ⟨request, hrequest, ?_⟩
  rintro ι viewer looker eye shop rfl
  rw [View.fetch_backed, View.shown, hrequest, Except.bind, hresult]

/-- A compartment that the backend does not keep is in no view. -/
theorem unseen_of_notMem {store : Store} {compartment : String}
    (h : compartment ∉ store.compartments.map Backend.Compartment.id) :
    Unseen store compartment := by
  rintro ι viewer looker eye shop rfl view content hcontent hmem
  rw [View.fetch_backed, View.shown] at hcontent
  rcases exists_of_bind_eq_ok hcontent with ⟨request, -, hcontent⟩
  rcases exists_of_bind_eq_ok hcontent with ⟨credential, -, hcontent⟩
  rcases takenIn_eq_ok hcontent with ⟨data, noted, hdata, hread, rfl⟩
  exact h (View.compartmentIds_subset hdata hread hmem)

/-! ## Identifiers -/

/-- The route of an entity takes an identifier: there is a path for it, and the path leads to the
entity. -/
structure Collection.Accepts (collection : Collection) (id : String) : Prop where
  written : ∃ path, entityPath collection.path id = .ok path
  leads : ofPath? (collection.path ++ "/" ++ encodeSegment id) =
    some (collection.route (encodeSegment id))

/-- A place that its route takes is not named like the overview. -/
theorem Collection.Accepts.ne_overview {id : String} (h : places.Accepts id) : id ≠ "bff" := by
  rcases h.written with ⟨path, hpath⟩
  have hroute := ofPath?_path places (entityPath_eq_ok hpath).1
  rintro rfl
  rw [if_pos ⟨rfl, rfl⟩, h.leads] at hroute
  exact absurd hroute (by simp [route])

/-- An entity whose identifier the route takes can be asked for. -/
theorem Collection.Accepts.request {collection : Collection} {id : String}
    (h : collection.Accepts id) (method : Method) :
    ∃ request, entityRequest method collection.path id = .ok request := by
  rcases h.written with ⟨path, hpath⟩
  exact ⟨Request.to method path, by rw [entityRequest, hpath]; rfl⟩

/-! ## Places and storefronts -/

section

variable {store : Store} {id : String} {data : Json}

/-- A place is seen as what is made of the answer about it. -/
theorem place_readsAs (haccepts : Collection.places.Accepts id) {result : Result Place}
    (h : takenIn Place.ofPayload (replyOf (store.getPlace id)).data = result) :
    (View.place id).ReadsAs store result := by
  rcases haccepts.request .get with ⟨request, hrequest⟩
  have hplace : (View.place id).request = .ok request := hrequest
  apply View.readsAs_of_answer hplace
  rw [View.answer, if_neg haccepts.ne_overview]
  exact h

theorem storefront_readsAs (haccepts : Collection.storefronts.Accepts id)
    {result : Result Storefront}
    (h : takenIn Storefront.ofPayload (replyOf (store.getStorefront id)).data = result) :
    (View.storefront id).ReadsAs store result := by
  rcases haccepts.request .get with ⟨request, hrequest⟩
  have hstorefront : (View.storefront id).request = .ok request := hrequest
  exact View.readsAs_of_answer hstorefront h

theorem takenIn_eq {α : Type} {read : Json → Except Fault (Noted α)} {result : Result Json}
    (hdata : result = .ok data) {noted : Noted α} (hread : read data = .ok noted) :
    takenIn read result = .ok noted.value := by
  rw [hdata, takenIn, Except.bind, hread, Except.map]

/-- A place that is found has the identifier that it was asked for by. -/
theorem place_found (haccepts : Collection.places.Accepts id)
    (hdata : (replyOf (store.getPlace id)).data = .ok data) {noted : Noted Place}
    (hread : Place.ofPayload data = .ok noted) :
    noted.value.id = id ∧ (View.place noted.value.id).ReadsAs store (.ok noted.value) := by
  have hseen := place_readsAs haccepts (takenIn_eq hdata hread)
  rcases store.delivered_getPlace hdata with ⟨found, hfound, rfl⟩
  have htest := List.find?_some hfound
  have hid : found.id = id := beq_iff_eq.mp htest
  have hvalue : noted.value.id = id := by
    rw [found.toInternal_withCompartments] at hread
    rw [← hid]
    exact Place.ofPayload_id hread (by simp)
  exact ⟨hvalue, hvalue.symm ▸ hseen⟩

/-- So has a storefront. -/
theorem storefront_found (haccepts : Collection.storefronts.Accepts id)
    (hdata : (replyOf (store.getStorefront id)).data = .ok data) {noted : Noted Storefront}
    (hread : Storefront.ofPayload data = .ok noted) :
    noted.value.id = id ∧
      (View.storefront noted.value.id).ReadsAs store (.ok noted.value) := by
  have hseen := storefront_readsAs haccepts (takenIn_eq hdata hread)
  rcases store.delivered_getStorefront hdata with ⟨record, rfl, hmem⟩
  have hvalue := Storefront.ofPayload_id hread hmem
  exact ⟨hvalue, hvalue.symm ▸ hseen⟩

end

/-! ## Answers with data -/

/-- An operation whose answer has data was not refused for its body. -/
theorem input_of_data {α : Type} {layout : Decode.Layout α} {arrived : Backend.Request}
    {act : α → Backend.Answer × Store} {store : Store} {data : Json}
    (hdata : (replyOf (orRefuse store
      ((decodeBody layout arrived).bind fun input => .ok (act input))).1).data = .ok data) :
    ∃ input, decodeBody layout arrived = .ok input ∧
      orRefuse store ((decodeBody layout arrived).bind fun input => .ok (act input)) =
        act input := by
  cases hbody : decodeBody layout arrived with
  | ok input => exact ⟨input, rfl, rfl⟩
  | error refusal =>
    rw [hbody] at hdata
    have hsuccess : isSuccess refusal.status = true := Reply.success_of_data hdata
    cases decodeBody_refusal layout arrived hbody <;> exact absurd hsuccess (by decide)

/-- A created record has the data that it will have when it is found. -/
theorem data_created {answer found : Backend.Answer} (hanswer : answer.status = 201)
    (hfound : found = ⟨200, answer.body⟩) : (replyOf found).data = (replyOf answer).data := by
  rcases answer with ⟨status, body⟩
  obtain rfl : status = 201 := hanswer
  rw [hfound]
  rfl

/-! ## Creations -/

/-- A compartment is as it was asked for. -/
structure Compartment.Fulfils (compartment : Compartment) (input : NewCompartment) : Prop where
  placeId : compartment.placeId = input.placeId
  name : compartment.name = input.name
  kind : compartment.kind = input.kind
  /-- Notes are without the white space around them, and absent if nothing else is in them. -/
  notes : compartment.notes = Text.trimToSome input.description

section

variable {settings : Settings} {server : Server} {request : Request}
  {credential : Option Credential} {data : Json}

/-- A creation whose answer has data was carried out on what its body gives. -/
theorem carriedOut_of_data {operation : Backend.Operation} {α : Type} {layout : Decode.Layout α}
    {act : α → Backend.Answer × Store} (hreaches : Reaches request operation)
    (hperform : ∀ arrived,
      perform (server.supply.id server.issued) (server.supply.now server.issued) arrived operation
        server.store =
      orRefuse server.store ((decodeBody layout arrived).bind fun input => .ok (act input)))
    (hdata : (replyOf (carriedOut settings request credential server).1).data = .ok data) :
    ∃ input,
      decodeBody layout (arriving settings.base (request.prepare settings credential)) =
        .ok input ∧
      carriedOut settings request credential server = act input := by
  rw [carriedOut, hreaches.dispatch_eq, hperform] at hdata ⊢
  exact input_of_data hdata

theorem createPlace_readsBack (hunused : server.store.Unused (server.supply.id server.issued))
    (haccepts : Collection.places.Accepts (server.supply.id server.issued)) {input : NewPlace}
    {noted : Noted Place} (hrequest : (Change.createPlace input).request = .ok request)
    (hdata : (replyOf (carriedOut settings request credential server).1).data = .ok data)
    (hread : Place.ofPayload data = .ok noted) :
    (View.place noted.value.id).ReadsAs (carriedOut settings request credential server).2
      (.ok noted.value) := by
  obtain rfl := Except.ok.inj hrequest
  rcases carriedOut_of_data (reaches_createPlace input) (fun _ => rfl) hdata with
    ⟨got, -, hcarried⟩
  rw [hcarried] at hdata ⊢
  -- the data of the answer is what the place is found with
  rcases server.store.getPlace_createPlace _ (server.supply.now server.issued) hunused got with
    ⟨hstatus, hfound⟩
  rw [← data_created hstatus hfound] at hdata
  exact (place_found haccepts hdata hread).2

theorem createStorefront_readsBack
    (hunused : server.store.Unused (server.supply.id server.issued))
    (haccepts : Collection.storefronts.Accepts (server.supply.id server.issued))
    {input : NewStorefront} {noted : Noted Storefront}
    (hrequest : (Change.createStorefront input).request = .ok request)
    (hdata : (replyOf (carriedOut settings request credential server).1).data = .ok data)
    (hread : Storefront.ofPayload data = .ok noted) :
    (View.storefront noted.value.id).ReadsAs (carriedOut settings request credential server).2
      (.ok noted.value) := by
  obtain rfl := Except.ok.inj hrequest
  rcases carriedOut_of_data (reaches_createStorefront input) (fun _ => rfl) hdata with
    ⟨got, -, hcarried⟩
  rw [hcarried] at hdata ⊢
  rcases server.store.getStorefront_createStorefront _ (server.supply.now server.issued) hunused
    got with ⟨hstatus, hfound⟩
  rw [← data_created hstatus hfound] at hdata
  exact (storefront_found haccepts hdata hread).2

/-- A new compartment at the end of a store is in the overview as it was asked for. -/
theorem appended_readsAs {store : Store} {new : Backend.Compartment} {input : NewCompartment}
    (hfresh : new.id ∉ store.compartments.map Backend.Compartment.id)
    (hplace : new.placeId ∈ store.places.map Backend.Place.id)
    (hname : new.name = input.name) (hkind : new.kind = Tag.wire input.kind)
    (hplaceId : new.placeId = input.placeId) (hdescription : new.description = input.description) :
    ∃ batch compartment,
      View.places.ReadsAs { store with compartments := store.compartments ++ [new] } (.ok batch) ∧
        batch.ListsOnce compartment ∧ compartment.id = new.id ∧ compartment.Fulfils input := by
  let after : Store := { store with compartments := store.compartments ++ [new] }
  rcases Batch.ofPayload_batchData after with ⟨noted, hread, hvalue⟩
  have hseen : View.places.ReadsAs after (.ok (Batch.ofStore after)) := by
    rw [← hvalue]
    exact View.readsAs_of_answer rfl (takenIn_eq after.delivered_batch hread)
  have hmem : new ∈ after.compartments := List.mem_append_right _ List.mem_cons_self
  have honly : ∀ other ∈ after.compartments, other.id = new.id → other = new := by
    intro other hother hid
    rcases List.mem_append.mp hother with hold | hnew
    · exact absurd (hid ▸ List.mem_map_of_mem hold) hfresh
    · exact List.mem_singleton.mp hnew
  rcases Batch.exists_ofStore hmem honly hplace with
    ⟨compartment, hlists, hid, hplaceOf, place, claims, rfl⟩
  refine ⟨_, _, hseen, hlists, hid, ?_⟩
  constructor
  case placeId => exact hplaceOf.trans hplaceId
  case name => exact hname
  case kind =>
    have htaken : (Compartment.ofReported place claims new.reported).value.1.kind =
        (Tag.take CompartmentKind.shelf (some new.kind)).value := rfl
    rw [htaken, hkind, Tag.take_wire]
  case notes =>
    have htaken : (Compartment.ofReported place claims new.reported).value.1.notes =
        Text.trimToSome new.description := rfl
    rw [htaken, hdescription]

theorem createCompartment_readsBack
    (hunused : server.store.Unused (server.supply.id server.issued)) {input : NewCompartment}
    {reference : Reference} (hrequest : (Change.createCompartment input).request = .ok request)
    (hdata : (replyOf (carriedOut settings request credential server).1).data = .ok data)
    (hread : Reference.ofPayload data = .ok reference) :
    reference.placeId = some input.placeId ∧
      ∃ batch compartment,
        View.places.ReadsAs (carriedOut settings request credential server).2 (.ok batch) ∧
          batch.ListsOnce compartment ∧ compartment.id = reference.id ∧
          compartment.Fulfils input := by
  obtain rfl := Except.ok.inj hrequest
  rcases carriedOut_of_data (reaches_createCompartment input) (fun _ => rfl) hdata with
    ⟨got, hgot, hcarried⟩
  -- what arrived is what was asked for
  obtain rfl := input.decodeBody_encode rfl hgot
  rw [hcarried] at hdata ⊢
  unfold Store.createCompartment at hdata ⊢
  split at hdata
  · rename_i hparent
    rw [if_pos hparent]
    rcases names_of_compartmentCreated hdata with ⟨record, rfl, hid, hplace⟩
    rw [Reference.ofPayload_id hread hid, Reference.ofPayload_placeId hread hplace]
    have hfresh := mt (fun hmem => Store.mem_ids.mpr (.inr (.inl hmem))) hunused.unrecorded
    have hstored := (Collection.any_key_iff Backend.Place.id _ _).mp hparent
    exact ⟨rfl, appended_readsAs hfresh hstored rfl rfl rfl rfl⟩
  · have hsuccess : isSuccess Backend.parentNotFound.status = true := Reply.success_of_data hdata
    exact absurd hsuccess (by decide)

/-! ## Alterations -/

variable {change : Change} {collection : Collection} {id : String}

/-- No change only looks. -/
theorem Change.method_ne_get (hrequest : change.request = .ok request) :
    request.method ≠ .get := by
  cases change with
  | createPlace _ | createCompartment _ | createStorefront _ =>
    obtain rfl := Except.ok.inj hrequest
    simp [Request.json, Request.to]
  | deletePlace _ | deleteCompartment _ _ | deleteStorefront _ =>
    rw [(entityRequest_eq_ok hrequest).2]
    simp [Request.to]
  | updatePlace _ _ | updateStorefront _ _ =>
    rcases exists_of_map_eq_ok hrequest with ⟨base, hbase, rfl⟩
    rw [(entityRequest_eq_ok hbase).2]
    simp [Request.json, Request.to]

/-- A change of an entity whose answer has data has done with the entity what its method does. -/
theorem Change.acted (hentity : change.entity? = some (collection, id))
    (hrequest : change.request = .ok request)
    (hdata : (replyOf (carriedOut settings request credential server).1).data = .ok data) :
    collection.Accepts id ∧
      carriedOut settings request credential server =
        collection.act (server.supply.now server.issued)
          (arriving settings.base (request.prepare settings credential)) id server.store
          request.method := by
  have hpath := change.entityPath_request hentity hrequest
  have hoverview : ¬ (collection = .places ∧ id = "bff") := by
    rintro ⟨rfl, rfl⟩
    -- the overview can only be looked at
    have hbatch : batchPath = request.path := Except.ok.inj hpath
    rw [Collection.carriedOut_overview hbatch.symm, if_neg (change.method_ne_get hrequest)] at hdata
    have hsuccess : isSuccess 405 = true := Reply.success_of_data hdata
    exact absurd hsuccess (by decide)
  have hroute := Collection.ofPath?_path collection (entityPath_eq_ok hpath).1
  rw [if_neg hoverview] at hroute
  exact ⟨⟨⟨request.path, hpath⟩, hroute⟩,
    (Collection.addresses_of_path hpath hoverview).acts settings request credential server rfl⟩

theorem updatePlace_readsBack {input : PlaceUpdate} {noted : Noted Place}
    (hrequest : (Change.updatePlace id input).request = .ok request)
    (hdata : (replyOf (carriedOut settings request credential server).1).data = .ok data)
    (hread : Place.ofPayload data = .ok noted) :
    noted.value.id = id ∧ (View.place noted.value.id).ReadsAs
      (carriedOut settings request credential server).2 (.ok noted.value) := by
  rcases Change.acted rfl hrequest hdata with ⟨haccepts, hacted⟩
  rcases exists_of_map_eq_ok hrequest with ⟨base, hbase, rfl⟩
  obtain rfl := (entityRequest_eq_ok hbase).2
  rw [hacted] at hdata ⊢
  simp only [Collection.act, Request.json, Request.to, map_eq_bind] at hdata ⊢
  rcases input_of_data hdata with ⟨got, -, hdone⟩
  rw [hdone] at hdata ⊢
  rw [← Store.getPlace_updatePlace] at hdata
  exact place_found haccepts hdata hread

theorem updateStorefront_readsBack {input : StorefrontUpdate} {noted : Noted Storefront}
    (hrequest : (Change.updateStorefront id input).request = .ok request)
    (hdata : (replyOf (carriedOut settings request credential server).1).data = .ok data)
    (hread : Storefront.ofPayload data = .ok noted) :
    noted.value.id = id ∧ (View.storefront noted.value.id).ReadsAs
      (carriedOut settings request credential server).2 (.ok noted.value) := by
  rcases Change.acted rfl hrequest hdata with ⟨haccepts, hacted⟩
  rcases exists_of_map_eq_ok hrequest with ⟨base, hbase, rfl⟩
  obtain rfl := (entityRequest_eq_ok hbase).2
  rw [hacted] at hdata ⊢
  simp only [Collection.act, Request.json, Request.to, map_eq_bind] at hdata ⊢
  rcases input_of_data hdata with ⟨got, -, hdone⟩
  rw [hdone] at hdata ⊢
  rw [← Store.getStorefront_updateStorefront] at hdata
  exact storefront_found haccepts hdata hread

/-! ## Deletions -/

theorem deletePlace_readsBack
    (hdistinct : (server.store.compartments.map Backend.Compartment.id).Nodup)
    (hrequest : (Change.deletePlace id).request = .ok request)
    (hdata : (replyOf (carriedOut settings request credential server).1).data = .ok data) :
    (View.place id).ReadsAs (carriedOut settings request credential server).2
        (.error .notFound) ∧
      ∀ compartment ∈ server.store.compartments, compartment.placeId = id →
        Unseen (carriedOut settings request credential server).2 compartment.id := by
  rcases Change.acted rfl hrequest hdata with ⟨haccepts, hacted⟩
  obtain rfl := (entityRequest_eq_ok hrequest).2
  rw [hacted] at hdata ⊢
  simp only [Collection.act, Request.to] at hdata ⊢
  constructor
  · apply place_readsAs haccepts
    rw [server.store.getPlace_deletePlace, Backend.data_locationNotFound]
    rfl
  · intro compartment hmem hplace
    apply unseen_of_notMem
    refine server.store.deletePlace_compartments _ hdistinct ?_ hmem hplace
    intro hnotFound
    rw [hnotFound, Backend.data_locationNotFound] at hdata
    exact absurd hdata (by simp)

theorem deleteCompartment_readsBack {placeId : String}
    (hdistinct : (server.store.compartments.map Backend.Compartment.id).Nodup)
    (hrequest : (Change.deleteCompartment id placeId).request = .ok request)
    (hdata : (replyOf (carriedOut settings request credential server).1).data = .ok data) :
    Unseen (carriedOut settings request credential server).2 id := by
  rcases Change.acted rfl hrequest hdata with ⟨-, hacted⟩
  obtain rfl := (entityRequest_eq_ok hrequest).2
  rw [hacted] at hdata ⊢
  simp only [Collection.act, Request.to] at hdata ⊢
  apply unseen_of_notMem
  refine server.store.deleteCompartment_compartments _ hdistinct ?_
  intro hnotFound
  rw [hnotFound] at hdata
  have hsuccess : isSuccess Backend.compartmentNotFound.status = true :=
    Reply.success_of_data hdata
  exact absurd hsuccess (by decide)

theorem deleteStorefront_readsBack
    (hrequest : (Change.deleteStorefront id).request = .ok request)
    (hdata : (replyOf (carriedOut settings request credential server).1).data = .ok data) :
    (View.storefront id).ReadsAs (carriedOut settings request credential server).2
      (.error .notFound) := by
  rcases Change.acted rfl hrequest hdata with ⟨haccepts, hacted⟩
  obtain rfl := (entityRequest_eq_ok hrequest).2
  rw [hacted]
  simp only [Collection.act, Request.to]
  apply storefront_readsAs haccepts
  rw [server.store.getStorefront_deleteStorefront, Backend.data_locationNotFound]
  rfl

end

/-! ## All changes -/

/-- A reference whose place the server names is left as it is. -/
theorem Reference.withPlace_value {reference : Reference} {place : String}
    (h : reference.placeId = some place) (other : String) :
    (reference.withPlace other).value = reference := by
  rcases reference with ⟨id, placeId⟩
  obtain rfl : placeId = some place := h
  rfl

namespace Change

/-- The collection that a change adds a record to. -/
def collection? : Change → Option Collection
  | createPlace _ => some .places
  | createCompartment _ => some .compartments
  | createStorefront _ => some .storefronts
  | updatePlace .. | deletePlace _ | deleteCompartment .. | updateStorefront .. |
    deleteStorefront _ => none

/-- A server gives what a change adds an identifier that is new to its store, and that the route
takes. -/
structure FreshlyNamed (change : Change) (server : Server) : Prop where
  unused : change.collection? ≠ none → server.store.Unused (server.supply.id server.issued)
  accepted : ∀ collection, change.collection? = some collection →
    collection.Accepts (server.supply.id server.issued)

/-- What a change leaves to be seen, of what it returned and of what was in the store before. -/
def ReadsBack (before after : Store) : (change : Change) → change.Value → Prop
  | createPlace _, place => (View.place place.id).ReadsAs after (.ok place)
  | updatePlace id _, place =>
    place.id = id ∧ (View.place place.id).ReadsAs after (.ok place)
  | deletePlace id, _ =>
    (View.place id).ReadsAs after (.error .notFound) ∧
      ∀ compartment ∈ before.compartments, compartment.placeId = id →
        Unseen after compartment.id
  | createCompartment input, reference =>
    reference.placeId = some input.placeId ∧
      ∃ batch compartment, View.places.ReadsAs after (.ok batch) ∧
        batch.ListsOnce compartment ∧ compartment.id = reference.id ∧ compartment.Fulfils input
  | deleteCompartment id _, _ => Unseen after id
  | createStorefront _, storefront =>
    (View.storefront storefront.id).ReadsAs after (.ok storefront)
  | updateStorefront id _, storefront =>
    storefront.id = id ∧ (View.storefront storefront.id).ReadsAs after (.ok storefront)
  | deleteStorefront id, _ => (View.storefront id).ReadsAs after (.error .notFound)

/-- What a change returned is what is seen afterwards. -/
theorem run_readsBack (settings : Settings) (custodian : Custodian κ) (holder : κ)
    (server : Server) (change : Change) {changed : Changed change.Value}
    (h : ((change.run settings).runIn (backed settings.base custodian) (holder, server)).result =
      .ok changed)
    (hdistinct : (server.store.compartments.map Backend.Compartment.id).Nodup)
    (hnamed : change.FreshlyNamed server) :
    change.ReadsBack server.store
      ((change.run settings).runIn (backed settings.base custodian) (holder, server)).state.2.store
      changed.value := by
  cases change with
  | createPlace input =>
    rcases exists_of_run_ok h with ⟨_, _, _, _, hrequest, hdata, hread, rfl, hstore⟩
    have hseen := createPlace_readsBack (hnamed.unused nofun) (hnamed.accepted _ rfl) hrequest
      hdata hread
    exact hstore.symm ▸ hseen
  | updatePlace id input =>
    rcases exists_of_run_ok h with ⟨_, _, _, _, hrequest, hdata, hread, rfl, hstore⟩
    exact hstore.symm ▸ updatePlace_readsBack hrequest hdata hread
  | deletePlace id =>
    rcases exists_of_run_ok h with ⟨_, _, _, _, hrequest, hdata, -, rfl, hstore⟩
    exact hstore.symm ▸ deletePlace_readsBack hdistinct hrequest hdata
  | createCompartment input =>
    rcases exists_of_run_ok h with ⟨_, _, _, _, hrequest, hdata, hread, rfl, hstore⟩
    have hseen := createCompartment_readsBack (hnamed.unused nofun) hrequest hdata
      (unnoted_eq_ok hread)
    rw [Reference.withPlace_value hseen.1]
    exact hstore.symm ▸ hseen
  | deleteCompartment id placeId =>
    rcases exists_of_run_ok h with ⟨_, _, _, _, hrequest, hdata, -, rfl, hstore⟩
    exact hstore.symm ▸ deleteCompartment_readsBack hdistinct hrequest hdata
  | createStorefront input =>
    rcases exists_of_run_ok h with ⟨_, _, _, _, hrequest, hdata, hread, rfl, hstore⟩
    have hseen := createStorefront_readsBack (hnamed.unused nofun) (hnamed.accepted _ rfl)
      hrequest hdata hread
    exact hstore.symm ▸ hseen
  | updateStorefront id input =>
    rcases exists_of_run_ok h with ⟨_, _, _, _, hrequest, hdata, hread, rfl, hstore⟩
    exact hstore.symm ▸ updateStorefront_readsBack hrequest hdata hread
  | deleteStorefront id =>
    rcases exists_of_run_ok h with ⟨_, _, _, _, hrequest, hdata, -, rfl, hstore⟩
    exact hstore.symm ▸ deleteStorefront_readsBack hrequest hdata

/-- A shelf for the attic. -/
def atticShelf : NewCompartment where
  name := "Top"
  kind := .shelf
  placeId := "attic"
  description := some " by the door "
  color := none

/-- The attic is called a loft, in another colour. -/
def loft : PlaceUpdate where
  name := some "Loft"
  kind := none
  coordinates := none
  color := some .green

/-- A change of the attic goes through and can be read back. -/
structure ReadsBackAtAttic (change : Change) (changed : Changed change.Value) : Prop where
  result : ((change.run Settings.default).runIn atticWorld ((), atticServer)).result = .ok changed
  named : change.FreshlyNamed atticServer
  readsBack : change.ReadsBack atticServer.store
    ((change.run Settings.default).runIn atticWorld ((), atticServer)).state.2.store changed.value

/-- A shelf that is put up in the attic is in the overview from then on. When the attic is called a
loft, the view of it shows what the change returned, and when it is deleted, it is not found. -/
theorem atticShelved_readsBack :
    (atticServer.store.compartments.map Backend.Compartment.id).Nodup ∧
      (createCompartment atticShelf).ReadsBackAtAttic
        ⟨⟨"new-0", some "attic"⟩, placeViews "attic"⟩ ∧
      (updatePlace "attic" loft).ReadsBackAtAttic
        ⟨{ id := "attic", name := "Loft", kind := .house, coordinates := none,
           color := some .green, compartments := [], created := none,
           updated := Timestamp.ofText? "2024-01-01T00:00:00Z" }, placeViews "attic"⟩ ∧
      (deletePlace "attic").ReadsBackAtAttic ⟨⟨"attic", none⟩, placeViews "attic"⟩ := by
  have hdistinct : (atticServer.store.compartments.map Backend.Compartment.id).Nodup := by
    decide
  have hreads (change : Change) (changed : Changed change.Value)
      (hresult : ((change.run Settings.default).runIn atticWorld ((), atticServer)).result =
        .ok changed) (hnamed : change.FreshlyNamed atticServer) :
      change.ReadsBackAtAttic changed :=
    ⟨hresult, hnamed, run_readsBack Settings.default (.fixed ⟨"secret"⟩) () atticServer change
      hresult hdistinct hnamed⟩
  -- an alteration and a deletion name nothing anew
  have hunnamed (change : Change) (hnone : change.collection? = none) :
      change.FreshlyNamed atticServer :=
    ⟨fun hsome => absurd hnone hsome, fun _ hsome => absurd (hnone.symm.trans hsome) (by simp)⟩
  refine ⟨hdistinct, hreads _ _ (by decide +kernel) ?_,
    hreads _ _ (by decide +kernel) (hunnamed _ rfl),
    hreads _ _ (by decide +kernel) (hunnamed _ rfl)⟩
  constructor
  case unused => exact fun _ => ⟨by decide +kernel, by decide⟩
  case accepted =>
    intro collection hcollection
    obtain rfl := Option.some.inj hcollection
    exact ⟨⟨_, rfl⟩, by decide +kernel⟩

end Change

end GameShelf
