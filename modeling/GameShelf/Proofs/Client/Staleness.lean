import GameShelf.Proofs.Client.Views
import GameShelf.Proofs.Decode.Record
import GameShelf.Proofs.Intake.Ownership

/-!
# Which views a change makes stale

A change that succeeds names the views that are to be looked at again. No other view shows
anything else than before.

* `Covers`: stale views that cover the difference of two stores.
* `Change.run_covers`: those of a change do.
* `Change.run_marksStale`: so a view that shows something else is among them.
-/

namespace GameShelf

open Backend (AgreeButPlace AgreeButStorefront Answer Operation Server Store orRefuse perform)
open Backend.Route (IsPlain ofPath?_place ofPath?_compartment ofPath?_storefront)
open Rehearsal (replyOf)
open Text (encodeSegment)

variable {κ : Type}

/-! ## What replies name -/

section

variable {record : Json.Fields}

/-- A place has the identifier that its payload gives. -/
theorem Place.ofPayload_id {noted : Noted Place} (h : Place.ofPayload (.record record) = .ok noted)
    {id : String} (hmem : ("id", .text id) ∈ record) : noted.value.id = id := by
  rcases Place.isMadeFrom.exists_read h with ⟨raw, hread, rfl⟩
  rcases Decode.Layout.read_record hread with ⟨values, hgives, rfl⟩
  have hid := Except.ok.inj (hgives.head hmem (by decide))
  exact hid.symm

/-- A storefront has the identifier that its payload gives. -/
theorem Storefront.ofPayload_id {noted : Noted Storefront}
    (h : Storefront.ofPayload (.record record) = .ok noted) {id : String}
    (hmem : ("id", .text id) ∈ record) : noted.value.id = id := by
  rcases Storefront.isMadeFrom.exists_read h with ⟨raw, hread, rfl⟩
  rcases Decode.Layout.read_record hread with ⟨values, hgives, rfl⟩
  have hid := Except.ok.inj (hgives.head hmem (by decide))
  exact hid.symm

/-- The reply to a change names the place that its payload gives. -/
theorem read_reference_placeId {raw : Reported.Reference}
    (h : Reported.Reference.layout.read (.record record) = .ok raw) {placeId : String}
    (hmem : ("parentLocationId", .text placeId) ∈ record) : raw.placeId = some placeId := by
  rcases Decode.Layout.read_record h with ⟨values, hgives, rfl⟩
  exact (Except.ok.inj (hgives.second hmem (by decide) (by decide))).symm

/-- A reference has the identifier that its payload gives. -/
theorem Reference.ofPayload_id {reference : Reference}
    (h : Reference.ofPayload (.record record) = .ok reference) {id : String}
    (hmem : ("id", .text id) ∈ record) : reference.id = id := by
  rcases exists_of_bind_eq_ok h with ⟨raw, hraw, h⟩
  rcases Decode.Layout.read_record (eq_ok_of_mapError hraw) with ⟨values, hgives, rfl⟩
  have hid := Except.ok.inj (hgives.head hmem (by decide))
  simp only [Reported.Reference.layout, ← hid] at h
  obtain rfl := Except.ok.inj h
  rfl

theorem Reference.ofPayload_placeId {reference : Reference}
    (h : Reference.ofPayload (.record record) = .ok reference) {placeId : String}
    (hmem : ("parentLocationId", .text placeId) ∈ record) :
    reference.placeId = some placeId := by
  rcases exists_of_bind_eq_ok h with ⟨raw, hraw, h⟩
  rw [← read_reference_placeId (eq_ok_of_mapError hraw) hmem]
  split at h
  · obtain rfl := Except.ok.inj h
    rfl
  · exact absurd h (by simp [throw, throwThe, MonadExceptOf.throw])

theorem Reference.confirmed_placeId {requested : String} {reference : Reference}
    (h : Reference.confirmed requested (.record record) = .ok reference) {placeId : String}
    (hmem : ("parentLocationId", .text placeId) ∈ record) :
    reference.placeId = some placeId := by
  rcases exists_of_bind_eq_ok h with ⟨raw, hraw, h⟩
  rw [← read_reference_placeId (eq_ok_of_mapError hraw) hmem]
  split at h
  · split at h
    · obtain rfl := Except.ok.inj h
      rfl
    · exact absurd h (by simp [throw, throwThe, MonadExceptOf.throw])
  · obtain rfl := Except.ok.inj h
    rfl

end

/-! ## What changes do to the store -/

/-- Stale views cover the difference of two stores: all of it is in one place or storefront, and
they are the views that show it. -/
inductive Covers (before after : Store) : List View → Prop where
  | place {id : String} (h : AgreeButPlace id before after) : Covers before after (placeViews id)
  | storefront {id : String} (h : AgreeButStorefront id before after) :
      Covers before after (storefrontViews id)

/-- An operation with a body either alters nothing or goes by what the body gives. -/
theorem orRefuse_body {α : Type} (store : Store) (body : Except Answer α)
    (act : α → Answer × Store) :
    (orRefuse store (body.bind fun input => .ok (act input))).2 = store ∨
      ∃ input, orRefuse store (body.bind fun input => .ok (act input)) = act input := by
  cases body with
  | error refusal => exact .inl rfl
  | ok input => exact .inr ⟨input, rfl⟩

section

variable (id now target : String) (arrived : Backend.Request) (store : Store)

theorem perform_createPlace :
    (perform id now arrived .createPlace store).2 = store ∨
      ∃ input, perform id now arrived .createPlace store = store.createPlace id now input :=
  orRefuse_body store _ _

theorem perform_createCompartment :
    (perform id now arrived .createCompartment store).2 = store ∨
      ∃ input, perform id now arrived .createCompartment store =
        store.createCompartment id now input :=
  orRefuse_body store _ _

theorem perform_createStorefront :
    (perform id now arrived .createStorefront store).2 = store ∨
      ∃ input, perform id now arrived .createStorefront store =
        store.createStorefront id now input :=
  orRefuse_body store _ _

theorem perform_updatePlace :
    AgreeButPlace target store
      (perform id now arrived (.updatePlace (encodeSegment target)) store).2 := by
  rw [perform, decodeId_encodeSegment]
  rcases orRefuse_body store (Backend.decodeBody Backend.UpdatePlace.layout arrived)
    (store.updatePlace now target ·) with hsame | ⟨input, hinput⟩
  · exact hsame.symm ▸ .refl target store
  · exact hinput.symm ▸ store.updatePlace_agree target now input

theorem perform_deletePlace :
    AgreeButPlace target store
      (perform id now arrived (.deletePlace (encodeSegment target)) store).2 := by
  rw [perform, decodeId_encodeSegment]
  exact store.deletePlace_agree target

theorem perform_deleteCompartment :
    perform id now arrived (.deleteCompartment (encodeSegment target)) store =
      store.deleteCompartment target := by
  rw [perform, decodeId_encodeSegment]
  rfl

theorem perform_updateStorefront :
    AgreeButStorefront target store
      (perform id now arrived (.updateStorefront (encodeSegment target)) store).2 := by
  rw [perform, decodeId_encodeSegment]
  rcases orRefuse_body store (Backend.decodeBody Backend.UpdateStorefront.layout arrived)
    (store.updateStorefront now target ·) with hsame | ⟨input, hinput⟩
  · exact hsame.symm ▸ .refl target store
  · exact hinput.symm ▸ store.updateStorefront_agree target now input

theorem perform_deleteStorefront :
    AgreeButStorefront target store
      (perform id now arrived (.deleteStorefront (encodeSegment target)) store).2 := by
  rw [perform, decodeId_encodeSegment]
  exact store.deleteStorefront_agree target

end

/-! ## Changes that succeed -/

section

variable {settings : Settings} {custodian : Custodian κ} {holder : κ} {server : Server}

/-- A request whose data was taken in was carried out, and its answer had the data. -/
theorem runIn_request_ok {α : Type} {read : Json → Except Fault (Noted α)}
    {prepared : Except Fault Request} {value : α}
    (h : ((GameShelf.request settings read prepared).runIn (backed settings.base custodian)
      (holder, server)).result = .ok value) :
    ∃ request credential data noted, prepared = .ok request ∧
      (replyOf (carriedOut settings request credential server).1).data = .ok data ∧
      read data = .ok noted ∧ noted.value = value ∧
      ((GameShelf.request settings read prepared).runIn (backed settings.base custodian)
        (holder, server)).state.2.store = (carriedOut settings request credential server).2 := by
  cases prepared with
  | error fault => exact absurd h (by simp [(runIn_request_error _ read _ settings fault).1])
  | ok request =>
    obtain ⟨hresult, hstate⟩ :=
      runIn_request (backed settings.base custodian) read (holder, server) settings request
    have hsettles := send_backed settings request custodian holder server
    rw [hresult] at h
    rw [hstate]
    rcases takenIn_eq_ok h with ⟨data, noted, hsent, hread, hvalue⟩
    cases hadmission : admission settings request custodian holder server.token with
    | error fault =>
      rw [(hsettles.refused fault hadmission).1] at hsent
      exact absurd hsent (by simp)
    | ok credential =>
      rcases hsettles.carried credential hadmission with ⟨hdata, hstore⟩
      exact ⟨request, credential, data, noted, rfl, hdata.symm.trans hsent, hread, hvalue, hstore⟩

/-- What is added to the result of a call leaves its end as it is. -/
theorem runIn_map_ok {σ α β : Type} {world : World σ} {state : σ} {call : Dialogue (Result α)}
    {add : α → β} {changed : β}
    (h : ((call.bind fun result => .done (result.map add)).runIn world state).result =
      .ok changed) :
    ∃ value, (call.runIn world state).result = .ok value ∧ changed = add value ∧
      ((call.bind fun result => .done (result.map add)).runIn world state).state =
        (call.runIn world state).state := by
  have hrun := Dialogue.runIn_bind world call (fun result => .done (result.map add)) state
  rw [hrun] at h ⊢
  simp only [Dialogue.runIn_done] at h
  rcases exists_of_map_eq_ok h with ⟨value, hvalue, hadd⟩
  exact ⟨value, hvalue, hadd.symm, rfl⟩

theorem unnoted_eq_ok {α : Type} {read : Json → Except Fault α} {payload : Json} {noted : Noted α}
    (h : unnoted read payload = .ok noted) : read payload = .ok noted.value := by
  rcases exists_of_map_eq_ok h with ⟨value, hvalue, rfl⟩
  exact hvalue

/-! ## Where changes lead -/

variable {request : Request} {operation : Operation} {id : String}

theorem Reaches.carriedOut_eq (h : Reaches request operation) (credential : Option Credential) :
    ∃ arrived, carriedOut settings request credential server =
      perform (server.supply.id server.issued) (server.supply.now server.issued) arrived operation
        server.store :=
  ⟨_, h.dispatch_eq ..⟩

/-- A request for a new place leads to its creation. -/
theorem reaches_createPlace (input : NewPlace) :
    Reaches ((Request.to .post placesPath).json input.encode) .createPlace :=
  ⟨Backend.Route.isPlain_places, _, Backend.Route.ofPath?_places, rfl⟩

theorem reaches_createCompartment (input : NewCompartment) :
    Reaches ((Request.to .post compartmentsPath).json input.encode) .createCompartment :=
  ⟨Backend.Route.isPlain_compartments, _, Backend.Route.ofPath?_compartments, rfl⟩

theorem reaches_createStorefront (input : NewStorefront) :
    Reaches ((Request.to .post storefrontsPath).json input.encode) .createStorefront :=
  ⟨Backend.Route.isPlain_storefronts, _, Backend.Route.ofPath?_storefronts, rfl⟩

/-- A request for a place alters that place at most, also where the overview stands in its
place. -/
theorem carriedOut_place (hid : id ≠ "")
    (hpath : request.path = placesPath ++ "/" ++ encodeSegment id)
    (hoverview : Backend.Route.batch.operation? request.method.text = none)
    (hoperation : (Backend.Route.place (encodeSegment id)).operation? request.method.text =
      some operation)
    (hperform : ∀ new now arrived store,
      AgreeButPlace id store (perform new now arrived operation store).2)
    (credential : Option Credential) :
    AgreeButPlace id server.store (carriedOut settings request credential server).2 := by
  have hplain : IsPlain request.path := by
    rw [hpath]
    exact Backend.Route.isPlain_entity Backend.Route.isPlain_places id
  have hroute := ofPath?_place hid
  rw [← hpath] at hroute
  -- the overview has no such method
  split at hroute
  · rw [carriedOut, dispatch_unreached hplain hroute hoverview]
    exact .refl id server.store
  · have hreaches : Reaches request operation := ⟨hplain, _, hroute, hoperation⟩
    rcases hreaches.carriedOut_eq credential with ⟨arrived, hcarried⟩
    rw [hcarried]
    exact hperform _ _ _ _

/-- A request for a storefront alters that storefront at most. -/
theorem carriedOut_storefront (hid : id ≠ "")
    (hpath : request.path = storefrontsPath ++ "/" ++ encodeSegment id)
    (hoperation : (Backend.Route.storefront (encodeSegment id)).operation? request.method.text =
      some operation)
    (hperform : ∀ new now arrived store,
      AgreeButStorefront id store (perform new now arrived operation store).2)
    (credential : Option Credential) :
    AgreeButStorefront id server.store (carriedOut settings request credential server).2 := by
  have hplain : IsPlain request.path := by
    rw [hpath]
    exact Backend.Route.isPlain_entity Backend.Route.isPlain_storefronts id
  have hroute := ofPath?_storefront hid
  rw [← hpath] at hroute
  have hreaches : Reaches request operation := ⟨hplain, _, hroute, hoperation⟩
  rcases hreaches.carriedOut_eq credential with ⟨arrived, hcarried⟩
  rw [hcarried]
  exact hperform _ _ _ _

/-! ## Change by change -/

variable {credential : Option Credential} {data : Json}

theorem createPlace_covers {input : NewPlace} {noted : Noted Place}
    (hrequest : (Change.createPlace input).request = .ok request)
    (hdata : (replyOf (carriedOut settings request credential server).1).data = .ok data)
    (hread : Place.ofPayload data = .ok noted) :
    Covers server.store (carriedOut settings request credential server).2
      (placeViews noted.value.id) := by
  obtain rfl := Except.ok.inj hrequest
  rcases (reaches_createPlace input).carriedOut_eq credential with ⟨arrived, hcarried⟩
  rw [hcarried] at hdata ⊢
  rcases perform_createPlace _ _ arrived server.store with hsame | ⟨new, hnew⟩
  · rw [hsame]
    exact .place (.refl _ server.store)
  · rw [hnew] at hdata ⊢
    rcases id_of_placeCreated hdata with ⟨record, rfl, hid⟩
    rw [Place.ofPayload_id hread hid]
    exact .place (server.store.createPlace_agree _ _ new)

theorem updatePlace_covers {input : PlaceUpdate}
    (hrequest : (Change.updatePlace id input).request = .ok request) :
    Covers server.store (carriedOut settings request credential server).2 (placeViews id) := by
  rcases exists_of_map_eq_ok hrequest with ⟨base, hbase, rfl⟩
  rcases entityRequest_eq_ok hbase with ⟨hid, rfl⟩
  exact .place (carriedOut_place hid rfl rfl rfl (fun _ _ _ _ => perform_updatePlace ..) credential)

theorem deletePlace_covers (hrequest : (Change.deletePlace id).request = .ok request) :
    Covers server.store (carriedOut settings request credential server).2 (placeViews id) := by
  rcases entityRequest_eq_ok hrequest with ⟨hid, rfl⟩
  exact .place (carriedOut_place hid rfl rfl rfl (fun _ _ _ _ => perform_deletePlace ..) credential)

theorem createCompartment_covers {input : NewCompartment} {reference : Reference}
    (hrequest : (Change.createCompartment input).request = .ok request)
    (hdata : (replyOf (carriedOut settings request credential server).1).data = .ok data)
    (hread : Reference.ofPayload data = .ok reference) :
    Covers server.store (carriedOut settings request credential server).2
      (placeViews (reference.placeId.getD input.placeId)) := by
  obtain rfl := Except.ok.inj hrequest
  rcases (reaches_createCompartment input).carriedOut_eq credential with ⟨arrived, hcarried⟩
  rw [hcarried] at hdata ⊢
  rcases perform_createCompartment _ _ arrived server.store with hsame | ⟨new, hnew⟩
  · rw [hsame]
    exact .place (.refl _ server.store)
  · rw [hnew] at hdata ⊢
    have hagree := server.store.createCompartment_agree (server.supply.id server.issued)
      (server.supply.now server.issued) new
    -- without its place the compartment is refused, and nothing is altered
    unfold Store.createCompartment at hdata hagree ⊢
    split at hdata
    · rename_i hparent
      rcases names_of_compartmentCreated hdata with ⟨record, rfl, -, hplace⟩
      rw [if_pos hparent] at hagree ⊢
      rw [Reference.ofPayload_placeId hread hplace]
      exact .place hagree
    · rename_i hparent
      rw [if_neg hparent]
      exact .place (.refl _ server.store)

theorem deleteCompartment_covers {placeId : String} {reference : Reference}
    (hrequest : (Change.deleteCompartment id placeId).request = .ok request)
    (hdata : (replyOf (carriedOut settings request credential server).1).data = .ok data)
    (hread : Reference.confirmed id data = .ok reference) :
    Covers server.store (carriedOut settings request credential server).2
      (placeViews (reference.placeId.getD placeId)) := by
  rcases entityRequest_eq_ok hrequest with ⟨hid, rfl⟩
  have hreaches : Reaches (Request.to .delete (compartmentsPath ++ "/" ++ encodeSegment id))
      (.deleteCompartment (encodeSegment id)) :=
    ⟨Backend.Route.isPlain_entity Backend.Route.isPlain_compartments id, _,
      ofPath?_compartment hid, rfl⟩
  rcases hreaches.carriedOut_eq credential with ⟨arrived, hcarried⟩
  rw [hcarried, perform_deleteCompartment] at hdata ⊢
  unfold Store.deleteCompartment at hdata ⊢
  split at hdata
  · rename_i removed rest hremoved
    rcases placeId_of_compartmentDeleted hdata with ⟨record, rfl, hplace⟩
    rw [Reference.confirmed_placeId hread hplace]
    exact .place (server.store.removeCompartment_agree hremoved)
  · exact .place (.refl _ server.store)

theorem createStorefront_covers {input : NewStorefront} {noted : Noted Storefront}
    (hrequest : (Change.createStorefront input).request = .ok request)
    (hdata : (replyOf (carriedOut settings request credential server).1).data = .ok data)
    (hread : Storefront.ofPayload data = .ok noted) :
    Covers server.store (carriedOut settings request credential server).2
      (storefrontViews noted.value.id) := by
  obtain rfl := Except.ok.inj hrequest
  rcases (reaches_createStorefront input).carriedOut_eq credential with ⟨arrived, hcarried⟩
  rw [hcarried] at hdata ⊢
  rcases perform_createStorefront _ _ arrived server.store with hsame | ⟨new, hnew⟩
  · rw [hsame]
    exact .storefront (.refl _ server.store)
  · rw [hnew] at hdata ⊢
    rcases id_of_storefrontCreated hdata with ⟨record, rfl, hid⟩
    rw [Storefront.ofPayload_id hread hid]
    exact .storefront (server.store.createStorefront_agree _ _ new)

theorem updateStorefront_covers {input : StorefrontUpdate}
    (hrequest : (Change.updateStorefront id input).request = .ok request) :
    Covers server.store (carriedOut settings request credential server).2
      (storefrontViews id) := by
  rcases exists_of_map_eq_ok hrequest with ⟨base, hbase, rfl⟩
  rcases entityRequest_eq_ok hbase with ⟨hid, rfl⟩
  exact .storefront
    (carriedOut_storefront hid rfl rfl (fun _ _ _ _ => perform_updateStorefront ..) credential)

theorem deleteStorefront_covers (hrequest : (Change.deleteStorefront id).request = .ok request) :
    Covers server.store (carriedOut settings request credential server).2
      (storefrontViews id) := by
  rcases entityRequest_eq_ok hrequest with ⟨hid, rfl⟩
  exact .storefront
    (carriedOut_storefront hid rfl rfl (fun _ _ _ _ => perform_deleteStorefront ..) credential)

end

/-! ## All changes -/

/-- A change that succeeds was carried out, and its value is made of the data of the answer. -/
theorem exists_of_run_ok {settings : Settings} {custodian : Custodian κ} {holder : κ}
    {server : Server} {α β : Type} {read : Json → Except Fault (Noted α)}
    {prepared : Except Fault Request} {add : α → Changed β} {changed : Changed β}
    (h : (((GameShelf.request settings read prepared).bind fun result =>
      .done (result.map add)).runIn (backed settings.base custodian) (holder, server)).result =
        .ok changed) :
    ∃ request credential data noted, prepared = .ok request ∧
      (replyOf (carriedOut settings request credential server).1).data = .ok data ∧
      read data = .ok noted ∧ changed = add noted.value ∧
      (((GameShelf.request settings read prepared).bind fun result =>
        .done (result.map add)).runIn (backed settings.base custodian)
          (holder, server)).state.2.store =
        (carriedOut settings request credential server).2 := by
  rcases runIn_map_ok h with ⟨value, hvalue, hchanged, hstate⟩
  rcases runIn_request_ok hvalue with
    ⟨request, credential, data, noted, hrequest, hdata, hread, rfl, hstore⟩
  exact ⟨request, credential, data, noted, hrequest, hdata, hread, hchanged, by rw [hstate, hstore]⟩

/-- What holds of every request that is carried out holds of a change that succeeds with it. -/
theorem covers_of_carriedOut {settings : Settings} {custodian : Custodian κ} {holder : κ}
    {server : Server} {α β : Type} {read : Json → Except Fault (Noted α)}
    {prepared : Except Fault Request} {add : α → Changed β} {changed : Changed β}
    (h : (((GameShelf.request settings read prepared).bind fun result =>
      .done (result.map add)).runIn (backed settings.base custodian) (holder, server)).result =
        .ok changed)
    (hcovers : ∀ request credential data noted, prepared = .ok request →
      (replyOf (carriedOut settings request credential server).1).data = .ok data →
      read data = .ok noted →
      Covers server.store (carriedOut settings request credential server).2
        (add noted.value).stale) :
    Covers server.store
      (((GameShelf.request settings read prepared).bind fun result =>
        .done (result.map add)).runIn (backed settings.base custodian)
          (holder, server)).state.2.store
      changed.stale := by
  rcases exists_of_run_ok h with
    ⟨request, credential, data, noted, hrequest, hdata, hread, rfl, hstore⟩
  rw [hstore]
  exact hcovers request credential data noted hrequest hdata hread

/-- The views that a change makes stale cover what it did to the store. -/
theorem Change.run_covers (settings : Settings) (custodian : Custodian κ) (holder : κ)
    (server : Server) (change : Change) {changed : Changed change.Value}
    (h : ((change.run settings).runIn (backed settings.base custodian) (holder, server)).result =
      .ok changed) :
    Covers server.store
      ((change.run settings).runIn (backed settings.base custodian) (holder, server)).state.2.store
      changed.stale := by
  cases change with
  | createPlace input =>
    exact covers_of_carriedOut h fun _ _ _ _ hrequest hdata hread =>
      createPlace_covers hrequest hdata hread
  | updatePlace id input =>
    exact covers_of_carriedOut h fun _ _ _ _ hrequest _ _ => updatePlace_covers hrequest
  | deletePlace id =>
    exact covers_of_carriedOut h fun _ _ _ _ hrequest _ _ => deletePlace_covers hrequest
  | createCompartment input =>
    exact covers_of_carriedOut h fun _ _ _ _ hrequest hdata hread =>
      createCompartment_covers hrequest hdata (unnoted_eq_ok hread)
  | deleteCompartment id placeId =>
    exact covers_of_carriedOut h fun _ _ _ _ hrequest hdata hread =>
      deleteCompartment_covers hrequest hdata (unnoted_eq_ok hread)
  | createStorefront input =>
    exact covers_of_carriedOut h fun _ _ _ _ hrequest hdata hread =>
      createStorefront_covers hrequest hdata hread
  | updateStorefront id input =>
    exact covers_of_carriedOut h fun _ _ _ _ hrequest _ _ => updateStorefront_covers hrequest
  | deleteStorefront id =>
    exact covers_of_carriedOut h fun _ _ _ _ hrequest _ _ => deleteStorefront_covers hrequest

/-- A view that shows something else after a change than before is stale. -/
theorem Change.run_marksStale {ι : Type} (settings : Settings) (custodian : Custodian κ)
    (holder : κ) (server : Server) (change : Change) {changed : Changed change.Value}
    (h : ((change.run settings).runIn (backed settings.base custodian) (holder, server)).result =
      .ok changed)
    (viewer : Settings) (looker : Custodian ι) (eye : ι) (shop : Server) (view : View)
    (hdiffers :
      ((view.fetch viewer).runIn (backed viewer.base looker)
        (eye, shop.seed ((change.run settings).runIn (backed settings.base custodian)
          (holder, server)).state.2.store)).result ≠
      ((view.fetch viewer).runIn (backed viewer.base looker)
        (eye, shop.seed server.store)).result) :
    view ∈ changed.stale := by
  by_contra hview
  apply hdiffers
  rw [View.fetch_backed, View.fetch_backed]
  have hcovers := Change.run_covers settings custodian holder server change h
  generalize changed.stale = stale at hcovers hview
  cases hcovers with
  | place hagree => exact View.shown_of_agreeButPlace viewer looker eye shop.token hagree hview
  | storefront hagree =>
    exact View.shown_of_agreeButStorefront viewer looker eye shop.token hagree hview

/-- A custodian that has one credential and never another. -/
def Custodian.fixed (credential : Credential) : Custodian Unit where
  get := fun _ => (.ok credential, ())
  refresh := fun _ => (.ok credential, ())

/-- A server that keeps one place. -/
def atticServer : Server where
  store :=
    { places := [⟨"attic", "Attic", "house", none, none, "", ""⟩]
      compartments := []
      storefronts := [] }
  token := "secret"
  requests := 0
  issued := 0
  supply := ⟨fun count => "new-" ++ Nat.repr count, fun _ => "2024-01-01T00:00:00Z"⟩

/-- The world with this server and a credential that it takes. -/
def atticWorld : World (Unit × Server) :=
  backed Settings.default.base (.fixed ⟨"secret"⟩)

/-- When the place is deleted, it is to be looked at again, and then it is not found. -/
theorem Change.atticDeleted_marksStale :
    (((deletePlace "attic").run Settings.default).runIn atticWorld ((), atticServer)).result =
        .ok ⟨⟨"attic", none⟩, placeViews "attic"⟩ ∧
      (((View.place "attic").fetch Settings.default).runIn atticWorld
        ((), atticServer.seed (((deletePlace "attic").run Settings.default).runIn atticWorld
          ((), atticServer)).state.2.store)).result ≠
        (((View.place "attic").fetch Settings.default).runIn atticWorld
          ((), atticServer.seed atticServer.store)).result ∧
      View.place "attic" ∈ placeViews "attic" := by
  have hdeleted : (((deletePlace "attic").run Settings.default).runIn atticWorld
      ((), atticServer)).result = .ok ⟨⟨"attic", none⟩, placeViews "attic"⟩ := by
    decide +kernel
  have hbefore : (((View.place "attic").fetch Settings.default).runIn atticWorld
      ((), atticServer.seed atticServer.store)).result.toBool = true := by
    decide +kernel
  have hafter : (((View.place "attic").fetch Settings.default).runIn atticWorld
      ((), atticServer.seed (((deletePlace "attic").run Settings.default).runIn atticWorld
        ((), atticServer)).state.2.store)).result = .error .notFound := by
    decide +kernel
  have hdiffers := fun heq =>
    Bool.false_ne_true ((congrArg Except.toBool (hafter.symm.trans heq)).trans hbefore)
  exact ⟨hdeleted, hdiffers, run_marksStale Settings.default (.fixed ⟨"secret"⟩) () atticServer
    (deletePlace "attic") hdeleted Settings.default (.fixed ⟨"secret"⟩) () atticServer
    (.place "attic") hdiffers⟩

end GameShelf
