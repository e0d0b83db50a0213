import GameShelf.Proofs.Backend.Entities
import GameShelf.Proofs.Backend.Surface
import GameShelf.Proofs.Decode.Entries

/-!
# What an alteration alters

A request that alters a place or a storefront names some of its parts. If it succeeds, the first
record with the identifier has the parts that were given, a new time, and everything else as before;
no other record is touched, and the answer is the record as it is now.

* `Overwrites`: a part of a record that is given or kept.
* `Place.Patched`, `Storefront.Patched`: all the parts of a record.
* `ReplacesFirst`: one record of a list in the place of another.
* `Patch`: what a successful alteration has done, and what it answers.
* `Applies`: the alterations that can be done.
* `perform_patches`: these succeed, no others do, and a success has done just that.
-/

namespace GameShelf.Backend

open Decode (Layout Reader given_of_found nullable nullable_of_ok optional)
open Json (given? given?_ne_null)

/-! ## Parts of a record -/

/-- A part of a record is what is given under a key, or stays as it was if nothing is given. -/
def Overwrites {α : Type} (entries : Json.Fields) (key : String) (read : Reader α)
    (old new : α) : Prop :=
  match given? entries key with
  | some value => read value = .ok new
  | none => new = old

section

variable {α : Type} {entries : Json.Fields} {name : String} {read : Reader α} {found : Option α}

/-- An optional field of a body overwrites a part that is always there. -/
theorem overwrites_getD (h : (optional name read).found entries = .ok found) (old : α) :
    Overwrites entries name read old (found.getD old) := by
  have hfound := given_of_found h
  unfold Overwrites
  cases hgiven : given? entries name with
  | some value =>
    rw [hgiven] at hfound
    rcases hfound with ⟨a, hread, rfl⟩
    exact hread
  | none =>
    rw [hgiven] at hfound
    exact congrArg (Option.getD · old) hfound

/-- It overwrites a part that may be missing, but it never takes it away. -/
theorem overwrites_orElse (h : (optional name read).found entries = .ok found)
    (old : Option α) : Overwrites entries name (nullable read) old (found <|> old) := by
  have hfound := given_of_found h
  unfold Overwrites
  cases hgiven : given? entries name with
  | some value =>
    rw [hgiven] at hfound
    rcases hfound with ⟨a, hread, rfl⟩
    exact nullable_of_ok (given?_ne_null hgiven) hread
  | none =>
    rw [hgiven] at hfound
    exact congrArg (· <|> old) hfound

end

/-- A place after an alteration by the given entries. -/
structure Place.Patched (entries : Json.Fields) (now : String) (old new : Place) : Prop where
  id : new.id = old.id
  name : Overwrites entries "name" Decode.text old.name new.name
  kind : Overwrites entries "location_type" Decode.text old.kind new.kind
  coordinates :
    Overwrites entries "map_coordinates" (nullable Decode.text) old.coordinates new.coordinates
  color : Overwrites entries "bg_color" (nullable Decode.text) old.color new.color
  created : new.created = old.created
  updated : new.updated = now

/-- A storefront after an alteration by the given entries. -/
structure Storefront.Patched (entries : Json.Fields) (now : String) (old new : Storefront) :
    Prop where
  id : new.id = old.id
  name : Overwrites entries "name" Decode.text old.name new.name
  platform : Overwrites entries "location_type" Decode.text old.platform new.platform
  isSubscription :
    Overwrites entries "is_subscription" Decode.flag old.isSubscription new.isSubscription
  isActive : Overwrites entries "is_active" Decode.flag old.isActive new.isActive
  cost : Overwrites entries "monthly_cost" (nullable Decode.double) old.cost new.cost
  cycle : Overwrites entries "billing_cycle" Decode.text old.cycle new.cycle
  nextPayment :
    Overwrites entries "next_payment_date" (nullable Decode.text) old.nextPayment new.nextPayment
  method : Overwrites entries "payment_method" Decode.text old.method new.method
  games : new.games = old.games
  created : new.created = old.created
  updated : new.updated = now

theorem Place.patched_of_read {body : Json} {input : UpdatePlace}
    (h : UpdatePlace.layout.read body = .ok input) (now : String) (place : Place) :
    place.Patched (UpdatePlace.layout.entries body) now (Store.alteredPlace now input place) := by
  rcases Layout.finds_of_read (by decide) h with ⟨values, hfinds, rfl⟩
  rcases values with ⟨name, kind, coordinates, color, _⟩
  rcases hfinds with ⟨hname, hkind, hcoordinates, hcolor, -⟩
  exact
    { id := rfl
      name := overwrites_getD hname _
      kind := overwrites_getD hkind _
      coordinates := overwrites_orElse hcoordinates _
      color := overwrites_orElse hcolor _
      created := rfl
      updated := rfl }

theorem Storefront.patched_of_read {body : Json} {input : UpdateStorefront}
    (h : UpdateStorefront.layout.read body = .ok input) (now : String) (storefront : Storefront) :
    storefront.Patched (UpdateStorefront.layout.entries body) now
      (Store.alteredStorefront now input storefront) := by
  rcases Layout.finds_of_read (by decide) h with ⟨values, hfinds, rfl⟩
  rcases values with
    ⟨name, platform, isSubscription, isActive, cost, cycle, nextPayment, method, _⟩
  rcases hfinds with
    ⟨hname, hplatform, hsubscription, hactive, hcost, hcycle, hpayment, hmethod, -⟩
  exact
    { id := rfl
      name := overwrites_getD hname _
      platform := overwrites_getD hplatform _
      isSubscription := overwrites_getD hsubscription _
      isActive := overwrites_getD hactive _
      cost := overwrites_orElse hcost _
      cycle := overwrites_getD hcycle _
      nextPayment := overwrites_orElse hpayment _
      method := overwrites_getD hmethod _
      games := rfl
      created := rfl
      updated := rfl }

/-! ## Records of a list -/

/-- A list has a new record where another one had the old record, the first with its identifier. All
others are as they were, in the same order. -/
def ReplacesFirst {α : Type} (key : α → String) (id : String) (old new : α)
    (before after : List α) : Prop :=
  ∃ front back, before = front ++ old :: back ∧ after = front ++ new :: back ∧ key old = id ∧
    ∀ a ∈ front, key a ≠ id

theorem ReplacesFirst.id_eq {α : Type} {key : α → String} {id : String} {old new : α}
    {before after : List α} (h : ReplacesFirst key id old new before after) : key old = id := by
  rcases h with ⟨_, _, _, _, hid, _⟩
  exact hid

theorem replacesFirst_of_replaceFirst? {α : Type} {key : α → String} {id : String}
    {replace : α → α} {before after : List α} {new : α}
    (h : replaceFirst? (fun a => key a == id) replace before = some (new, after)) :
    ∃ old, new = replace old ∧ ReplacesFirst key id old new before after := by
  induction before generalizing after with
  | nil => exact absurd h (by simp [replaceFirst?])
  | cons a rest ih =>
    rw [replaceFirst?] at h
    split at h
    · rename_i hkey
      rcases Prod.mk.inj (Option.some.inj h) with ⟨rfl, rfl⟩
      exact ⟨a, rfl, [], rest, rfl, rfl, beq_iff_eq.mp hkey, by simp⟩
    · rename_i hkey
      rcases Option.map_eq_some_iff.mp h with ⟨⟨found, others⟩, hothers, heq⟩
      rcases Prod.mk.inj heq with ⟨rfl, rfl⟩
      rcases ih hothers with ⟨old, hnew, front, back, rfl, rfl, hold, hfront⟩
      refine ⟨old, hnew, a :: front, back, rfl, rfl, hold, ?_⟩
      exact List.forall_mem_cons.mpr ⟨fun heq => hkey (beq_iff_eq.mpr heq), hfront⟩

section

variable {now id : String} {store : Store}

theorem Store.updatePlace_success {input : UpdatePlace}
    (h : (store.updatePlace now id input).1.status = 200) :
    ∃ old places, ReplacesFirst Place.id id old (alteredPlace now input old) store.places places ∧
      store.updatePlace now id input =
        (.ok ((alteredPlace now input old).withCompartments store.compartments),
          { store with places }) := by
  unfold updatePlace at h ⊢
  split at h
  · rename_i new places hreplace
    rcases replacesFirst_of_replaceFirst? hreplace with ⟨old, rfl, hfirst⟩
    exact ⟨old, places, hfirst, rfl⟩
  · exact absurd h (by simp [locationNotFound, Answer.fail])

theorem Store.updateStorefront_success {input : UpdateStorefront}
    (h : (store.updateStorefront now id input).1.status = 200) :
    ∃ old storefronts, ReplacesFirst Storefront.id id old (alteredStorefront now input old)
        store.storefronts storefronts ∧
      store.updateStorefront now id input =
        (.ok (alteredStorefront now input old).toJson, { store with storefronts }) := by
  unfold updateStorefront at h ⊢
  split at h
  · rename_i new storefronts hreplace
    rcases replacesFirst_of_replaceFirst? hreplace with ⟨old, rfl, hfirst⟩
    exact ⟨old, storefronts, hfirst, rfl⟩
  · exact absurd h (by simp [locationNotFound, Answer.fail])

end

/-! ## Requests -/

/-- What a successful alteration has done to a store, and what it has answered: it has altered one
record by what the body shows, and nothing else. -/
inductive Patch (now : String) (request : Request) (before after : Store) (answer : Answer) :
    Operation → Prop
  | place {segment id : String} {body : Json} {old new : Place}
      (hid : Text.decodeSegment? segment = some id)
      (hbody : Shows (Json.surface (bodyTokens request.body)) body)
      (hpatched : old.Patched (UpdatePlace.layout.entries body) now new)
      (hplaces : ReplacesFirst Place.id id old new before.places after.places)
      (hcompartments : after.compartments = before.compartments)
      (hstorefronts : after.storefronts = before.storefronts)
      (hanswer : answer = .ok (Json.recordOf (new.fields ++
        [("sublocations", .list ((before.compartments.filter fun compartment =>
          compartment.placeId == id).map Compartment.toJson))]))) :
      Patch now request before after answer (.updatePlace segment)
  | storefront {segment id : String} {body : Json} {old new : Storefront}
      (hid : Text.decodeSegment? segment = some id)
      (hbody : Shows (Json.surface (bodyTokens request.body)) body)
      (hpatched : old.Patched (UpdateStorefront.layout.entries body) now new)
      (hplaces : after.places = before.places)
      (hcompartments : after.compartments = before.compartments)
      (hstorefronts : ReplacesFirst Storefront.id id old new before.storefronts after.storefronts)
      (hanswer : answer = .ok new.toJson) :
      Patch now request before after answer (.updateStorefront segment)

/-- The operations that alter a place or a storefront. -/
def Operation.IsUpdate (operation : Operation) : Prop :=
  ∃ segment, operation = .updatePlace segment ∨ operation = .updateStorefront segment

/-- An update that can be done: a record has the identifier of the path, and the body can be
decoded. -/
inductive Applies (request : Request) (store : Store) : Operation → Prop
  | place {segment id : String} {input : UpdatePlace}
      (hid : Text.decodeSegment? segment = some id)
      (hbody : decodeBody UpdatePlace.layout request = .ok input)
      (hheld : id ∈ store.places.map Place.id) : Applies request store (.updatePlace segment)
  | storefront {segment id : String} {input : UpdateStorefront}
      (hid : Text.decodeSegment? segment = some id)
      (hbody : decodeBody UpdateStorefront.layout request = .ok input)
      (hheld : id ∈ store.storefronts.map Storefront.id) :
      Applies request store (.updateStorefront segment)

theorem BodyRefusal.status_ne {answer : Answer} (h : BodyRefusal answer) : answer.status ≠ 200 := by
  cases h <;> decide

section

variable {id now segment : String} {request : Request} {store : Store}

/-- Where a refusal is no success, a success has passed its first part. -/
theorem exists_of_orRefuse_success {α : Type} {first : Except Answer α}
    {next : α → Except Answer (Answer × Store)}
    (hrefusal : ∀ refusal, first = .error refusal → refusal.status ≠ 200)
    (h : (orRefuse store (first.bind next)).1.status = 200) :
    ∃ a, first = .ok a ∧ orRefuse store (first.bind next) = orRefuse store (next a) := by
  cases first with
  | error refusal => exact absurd h (hrefusal refusal rfl)
  | ok a => exact ⟨a, rfl, rfl⟩

section

variable {α : Type} {layout : Layout α} (act : String → α → Answer × Store)

/-- An operation on a record acts with the identifier and the body that are decoded. -/
theorem orRefuse_decoded {target : String} {input : α}
    (hid : Text.decodeSegment? segment = some target)
    (hbody : decodeBody layout request = .ok input) :
    orRefuse store ((decodeId segment).bind fun target =>
      (decodeBody layout request).bind fun input => .ok (act target input)) = act target input := by
  rw [decodeId, hid, hbody]
  rfl

/-- It succeeds only if both can be decoded. -/
theorem exists_of_success
    (h : (orRefuse store ((decodeId segment).bind fun target =>
      (decodeBody layout request).bind fun input => .ok (act target input))).1.status = 200) :
    ∃ target input, Text.decodeSegment? segment = some target ∧
      decodeBody layout request = .ok input ∧ (act target input).1.status = 200 := by
  have hid (refusal : Answer) (hrefusal : decodeId segment = .error refusal) :
      refusal.status ≠ 200 := by
    rw [decodeId_eq_error hrefusal]
    decide
  have hbody (refusal : Answer) (hrefusal : decodeBody layout request = .error refusal) :
      refusal.status ≠ 200 := (decodeBody_refusal layout request hrefusal).status_ne
  rcases exists_of_orRefuse_success hid h with ⟨target, htarget, hfirst⟩
  rw [hfirst] at h
  rcases exists_of_orRefuse_success hbody h with ⟨input, hinput, hsecond⟩
  rw [hsecond] at h
  exact ⟨target, input, decodeId_eq_ok htarget, hinput, h⟩

end

theorem Applies.of_success {operation : Operation} (hupdate : operation.IsUpdate)
    (h : (perform id now request operation store).1.status = 200) :
    Applies request store operation := by
  rcases hupdate with ⟨segment, rfl | rfl⟩
  · rcases exists_of_success (fun target input => store.updatePlace now target input) h with
      ⟨target, input, hid, hbody, hstatus⟩
    exact .place hid hbody ((Collection.status_updatePlace now target store input).mp hstatus)
  · rcases exists_of_success (fun target input => store.updateStorefront now target input) h with
      ⟨target, input, hid, hbody, hstatus⟩
    exact .storefront hid hbody
      ((Collection.status_updateStorefront now target store input).mp hstatus)

/-- An update that applies succeeds, and it alters what its body shows. -/
theorem Applies.patches {operation : Operation} (h : Applies request store operation) :
    (perform id now request operation store).1.status = 200 ∧
      Patch now request store (perform id now request operation store).2
        (perform id now request operation store).1 operation := by
  cases h with
  | @place segment target input hid hbody hheld =>
    have hperform : perform id now request (.updatePlace segment) store =
        store.updatePlace now target input :=
      orRefuse_decoded (fun target input => store.updatePlace now target input) hid hbody
    have hstatus := (Collection.status_updatePlace now target store input).mpr hheld
    rcases Store.updatePlace_success hstatus with ⟨old, places, hfirst, hupdate⟩
    rcases decodeBody_shows hbody with ⟨body, hshows, hread⟩
    rw [hperform, hupdate]
    refine ⟨rfl, .place hid hshows (Place.patched_of_read hread now old) hfirst rfl rfl ?_⟩
    -- the compartments in a place are found by its identifier, which it keeps
    have hsame : (Store.alteredPlace now input old).id = target := hfirst.id_eq
    rw [Place.withCompartments, hsame]
  | @storefront segment target input hid hbody hheld =>
    have hperform : perform id now request (.updateStorefront segment) store =
        store.updateStorefront now target input :=
      orRefuse_decoded (fun target input => store.updateStorefront now target input) hid hbody
    have hstatus := (Collection.status_updateStorefront now target store input).mpr hheld
    rcases Store.updateStorefront_success hstatus with ⟨old, storefronts, hfirst, hupdate⟩
    rcases decodeBody_shows hbody with ⟨body, hshows, hread⟩
    rw [hperform, hupdate]
    exact ⟨rfl,
      .storefront hid hshows (Storefront.patched_of_read hread now old) rfl rfl hfirst rfl⟩

end

/-- An update succeeds exactly if it applies, and then it alters what its body shows of the first
record with its identifier, and nothing else. -/
theorem perform_patches (id now : String) (request : Request) (store : Store)
    {operation : Operation} (hupdate : operation.IsUpdate) :
    ((perform id now request operation store).1.status = 200 ↔ Applies request store operation) ∧
      ((perform id now request operation store).1.status = 200 →
        Patch now request store (perform id now request operation store).2
          (perform id now request operation store).1 operation) :=
  ⟨⟨Applies.of_success hupdate, fun happlies => happlies.patches.1⟩,
    fun hsuccess => (Applies.of_success hupdate hsuccess).patches.2⟩

/-- Two places with the same identifier, each with a compartment, and another place. -/
def twinStore : Store :=
  let place (id name : String) : Place := ⟨id, name, "house", some "46, 7", none, "then", "then"⟩
  let compartment (id placeId : String) : Compartment :=
    ⟨id, "Box", "shelf", placeId, none, none, 3, "then", "then"⟩
  { places := [place "attic" "Attic", place "home" "Home", place "home" "Office"]
    compartments := [compartment "a" "home", compartment "b" "attic", compartment "c" "home"]
    storefronts := [] }

/-- A request that names some parts of a place, one of them by null, and what is none of them. -/
def repaintHome : Request where
  method := "PATCH"
  path := "/v1/locations/physical/home"
  authorization := some "Bearer token"
  contentType := some "application/json"
  body := .text "\x7b\"name\":null,\"bg_color\":\"red\",\"id\":[1]\x7d"

theorem repaintHome_patches :
    let operation : Operation := .updatePlace "home"
    let outcome := perform "id" "now" repaintHome operation twinStore
    operation.IsUpdate ∧ outcome.1.status = 200 ∧ Applies repaintHome twinStore operation ∧
      Patch "now" repaintHome twinStore outcome.2 outcome.1 operation ∧
      outcome.2.places =
        [⟨"attic", "Attic", "house", some "46, 7", none, "then", "then"⟩,
          ⟨"home", "Home", "house", some "46, 7", some "red", "then", "now"⟩,
          ⟨"home", "Office", "house", some "46, 7", none, "then", "then"⟩] := by
  intro operation outcome
  have hupdate : operation.IsUpdate := ⟨"home", .inl rfl⟩
  have hsuccess : outcome.1.status = 200 := by decide +kernel
  rcases perform_patches "id" "now" repaintHome twinStore hupdate with ⟨happlies, hpatch⟩
  exact ⟨hupdate, hsuccess, happlies.mp hsuccess, hpatch hsuccess, by decide +kernel⟩

end GameShelf.Backend
