import GameShelf.Proofs.Backend.Agreement
import GameShelf.Proofs.Backend.Overview
import GameShelf.Proofs.Client.EntityPath
import GameShelf.Proofs.Client.Session

/-!
# What views show

What a view of the backend shows depends on the credentials of the client and on what one
operation of the backend answers. Two stores that agree but for a place or a storefront show the
same in all views but those of it.

* `View.answer`: what the backend answers for a view.
* `View.fetch_backed`: what the view shows then.
* `View.shown_of_agreeButPlace`, `View.shown_of_agreeButStorefront`: the views that do not change.
-/

namespace GameShelf

open Backend (Answer AgreeButPlace AgreeButStorefront Operation Server Store perform)
open Backend.Route (IsPlain ofPath? ofPath?_place ofPath?_storefront)
open Rehearsal (replyOf)
open Text (encodeSegment)

variable {κ : Type}

/-! ## Requests whose data is taken in -/

/-- What is made of the result of a request. -/
def takenIn {α : Type} (read : Json → Except Fault (Noted α)) (result : Result Json) : Result α :=
  result.bind fun data => (read data).map Noted.value

theorem takenIn_eq_ok {α : Type} {read : Json → Except Fault (Noted α)} {result : Result Json}
    {value : α} (h : takenIn read result = .ok value) :
    ∃ data noted, result = .ok data ∧ read data = .ok noted ∧ noted.value = value := by
  rcases exists_of_bind_eq_ok h with ⟨data, hdata, h⟩
  rcases exists_of_map_eq_ok h with ⟨noted, hnoted, rfl⟩
  exact ⟨data, noted, hdata, hnoted, rfl⟩

section

variable {σ α : Type} (world : World σ) (read : Json → Except Fault (Noted α)) (state : σ)

theorem runIn_adapt (result : Result Json) :
    ((adapt read result).runIn world state).result = takenIn read result ∧
      ((adapt read result).runIn world state).state = state := by
  cases result with
  | error fault => exact ⟨rfl, rfl⟩
  | ok data =>
    rw [adapt, takenIn, Except.bind]
    cases read data with
    | error fault => exact ⟨rfl, rfl⟩
    | ok noted =>
      dsimp only
      rw [Dialogue.runIn_noteAll]
      exact ⟨rfl, rfl⟩

/-- The data of a request is taken in when the request has come to its end. -/
theorem runIn_request (settings : Settings) (request : Request) :
    ((GameShelf.request settings read (.ok request)).runIn world state).result =
        takenIn read ((send settings request).runIn world state).result ∧
      ((GameShelf.request settings read (.ok request)).runIn world state).state =
        ((send settings request).runIn world state).state := by
  rw [GameShelf.request, sendPrepared, Dialogue.runIn_bind]
  exact runIn_adapt world read _ _

/-- A request that cannot be written is not sent. -/
theorem runIn_request_error (settings : Settings) (fault : Fault) :
    ((GameShelf.request settings read (.error fault)).runIn world state).result = .error fault ∧
      ((GameShelf.request settings read (.error fault)).runIn world state).state = state :=
  ⟨rfl, rfl⟩

end

/-! ## Identifiers -/

theorem entityPath_eq_ok {collection id path : String} (h : entityPath collection id = .ok path) :
    id ≠ "" ∧ path = collection ++ "/" ++ encodeSegment id := by
  rcases entityPath_eq_ok_iff.mp h with ⟨hid, hpath⟩
  exact ⟨(not_or.mp hid).1, hpath⟩

/-- The request for an entity can be written if the entity has a path. -/
theorem entityRequest_eq_ok {method : Method} {collection id : String} {request : Request}
    (h : entityRequest method collection id = .ok request) :
    id ≠ "" ∧ request = Request.to method (collection ++ "/" ++ encodeSegment id) := by
  rcases exists_of_map_eq_ok h with ⟨path, hpath, rfl⟩
  rcases entityPath_eq_ok hpath with ⟨hid, rfl⟩
  exact ⟨hid, rfl⟩

namespace View

/-! ## Views of the backend -/

/-- The request for a view. -/
def request : View → Except Fault Request
  | places => .ok (Request.to .get batchPath)
  | place id => entityRequest .get placesPath id
  | storefronts => .ok (Request.to .get storefrontsPath)
  | storefront id => entityRequest .get storefrontsPath id
  | library => .ok (Request.to .get libraryPath)

/-- What is made of the data for a view. -/
def read : (view : View) → Json → Except Fault (Noted view.Content)
  | places => Batch.ofPayload
  | place _ => Place.ofPayload
  | storefronts => Storefront.listOfPayload
  | storefront _ => Storefront.ofPayload
  | library => fun payload => (Library.ofPayload payload).map orStopped

theorem fetch_eq (settings : Settings) (view : View) :
    view.fetch settings = GameShelf.request settings view.read view.request := by
  cases view <;> rfl

/-- What the backend answers for a view. A place named like the overview cannot be seen. -/
def answer : View → Store → Answer
  | places, store => store.batch
  | place id, store => if id = "bff" then store.batch else store.getPlace id
  | storefronts, store => store.listStorefronts
  | storefront id, store => store.getStorefront id
  | library, store => store.library

theorem reaches_of_path {method : Method} {path : String} {route : Backend.Route}
    {operation : Operation} (hplain : IsPlain path) (hroute : ofPath? path = some route)
    (hoperation : route.operation? method.text = some operation) :
    Reaches (Request.to method path) operation :=
  ⟨hplain, route, hroute, hoperation⟩

/-- The operation for a view answers so, and changes nothing. -/
theorem perform_view {view : View} {request : Request} (h : view.request = .ok request) :
    ∃ operation, Reaches request operation ∧ ∀ id now arrived store,
      perform id now arrived operation store = (view.answer store, store) := by
  cases view with
  | places =>
    obtain rfl := Except.ok.inj h
    exact ⟨.batch, reaches_of_path Backend.Route.isPlain_batch Backend.Route.ofPath?_batch rfl,
      fun _ _ _ _ => rfl⟩
  | storefronts =>
    obtain rfl := Except.ok.inj h
    exact ⟨.listStorefronts, reaches_of_path Backend.Route.isPlain_storefronts
      Backend.Route.ofPath?_storefronts rfl, fun _ _ _ _ => rfl⟩
  | library =>
    obtain rfl := Except.ok.inj h
    exact ⟨.library,
      reaches_of_path Backend.Route.isPlain_library Backend.Route.ofPath?_library rfl,
      fun _ _ _ _ => rfl⟩
  | storefront id =>
    rcases entityRequest_eq_ok h with ⟨hid, rfl⟩
    have hplain := Backend.Route.isPlain_entity Backend.Route.isPlain_storefronts id
    refine ⟨.getStorefront (encodeSegment id),
      reaches_of_path hplain (ofPath?_storefront hid) rfl, ?_⟩
    intro _ _ _ store
    rw [perform, decodeId_encodeSegment]
    rfl
  | place id =>
    rcases entityRequest_eq_ok h with ⟨hid, rfl⟩
    have hplain := Backend.Route.isPlain_entity Backend.Route.isPlain_places id
    have hroute := ofPath?_place hid
    by_cases hoverview : id = "bff"
    · rw [if_pos hoverview] at hroute
      refine ⟨.batch, reaches_of_path hplain hroute rfl, ?_⟩
      intro _ _ _ store
      rw [answer, if_pos hoverview]
      rfl
    · rw [if_neg hoverview] at hroute
      refine ⟨.getPlace (encodeSegment id), reaches_of_path hplain hroute rfl, ?_⟩
      intro _ _ _ store
      rw [answer, if_neg hoverview, perform, decodeId_encodeSegment]
      rfl

/-- What a view shows, given what the backend answers for it. -/
def shown (settings : Settings) (custodian : Custodian κ) (holder : κ) (token : String)
    (view : View) (answer : Answer) : Result view.Content :=
  view.request.bind fun request =>
    (admission settings request custodian holder token).bind fun _ =>
      takenIn view.read (replyOf answer).data

/-- A view of the backend shows what is made of the answer for it. -/
theorem fetch_backed (settings : Settings) (custodian : Custodian κ) (holder : κ)
    (server : Server) (view : View) :
    ((view.fetch settings).runIn (backed settings.base custodian) (holder, server)).result =
      view.shown settings custodian holder server.token (view.answer server.store) := by
  rw [fetch_eq, shown]
  cases hrequest : view.request with
  | error fault => rfl
  | ok request =>
    rcases perform_view hrequest with ⟨operation, hreaches, hperform⟩
    have hsettles := send_backed settings request custodian holder server
    rw [(runIn_request _ _ _ settings request).1, Except.bind]
    cases hadmission : admission settings request custodian holder server.token with
    | error fault =>
      rw [(hsettles.refused fault hadmission).1]
      rfl
    | ok credential =>
      -- whatever the credential is, the answer is the same
      have hcarried : carriedOut settings request credential server =
          (view.answer server.store, server.store) := by
        rw [carriedOut, hreaches.dispatch_eq, hperform]
      rw [(hsettles.carried credential hadmission).1, hcarried]
      rfl

/-! ## Views that do not change -/

section

variable (settings : Settings) (custodian : Custodian κ) (holder : κ) (token : String)
  {id : String} {before after : Store} {view : View}

/-- Where the overview stands in place of a place, all stores show the same fault. -/
theorem shown_overview (before after : Store) :
    (place "bff").shown settings custodian holder token ((place "bff").answer after) =
      (place "bff").shown settings custodian holder token ((place "bff").answer before) := by
  -- no overview can be taken for a place
  have htaken : ∀ store : Store, takenIn (place "bff").read (replyOf store.batch).data =
      .error (.undecodable (DecodeError.missingField "id").message) := by
    intro store
    rcases placeOfPayload_batch store with ⟨payload, hpayload, hplace⟩
    rw [hpayload, takenIn, Except.bind, read, hplace]
    rfl
  simp only [shown, answer, if_true, htaken]

/-- Stores that agree but for a place show the same in the views that do not show the place. -/
theorem shown_of_agreeButPlace (h : AgreeButPlace id before after) (hview : view ∉ placeViews id) :
    view.shown settings custodian holder token (view.answer after) =
      view.shown settings custodian holder token (view.answer before) := by
  cases view with
  | places => exact absurd hview (by simp [placeViews])
  | library => exact absurd hview (by simp [placeViews])
  | storefronts => simp only [answer, Store.listStorefronts, h.storefronts]
  | storefront other => simp only [answer, Store.getStorefront, h.storefronts]
  | place other =>
    have hother : other ≠ id := by
      rintro rfl
      exact hview List.mem_cons_self
    by_cases hoverview : other = "bff"
    · subst hoverview
      exact shown_overview settings custodian holder token before after
    · simp only [answer, if_neg hoverview, h.places other hother]

/-- Stores that agree but for a storefront show the same in the views that do not show the
storefront. -/
theorem shown_of_agreeButStorefront (h : AgreeButStorefront id before after)
    (hview : view ∉ storefrontViews id) :
    view.shown settings custodian holder token (view.answer after) =
      view.shown settings custodian holder token (view.answer before) := by
  cases view with
  | places => simp only [answer, Store.batch, Store.batchData, h.places, h.compartments]
  | library => exact absurd hview (by simp [storefrontViews])
  | storefronts => exact absurd hview (by simp [storefrontViews])
  | storefront other =>
    have hother : other ≠ id := by
      rintro rfl
      exact hview List.mem_cons_self
    simp only [answer, h.storefronts other hother]
  | place other =>
    simp only [answer, Store.batch, Store.batchData, Store.getPlace, Store.findPlace?, h.places,
      h.compartments]

end

end View

end GameShelf
