import Mathlib.Data.List.Perm.Basic
import Mathlib.Logic.Function.Basic
import GameShelf.Proofs.Backend.Consistency

/-!
# Requests of many clients

The server takes in requests while others are still on their way to the store. A request is let in
by the token that is accepted when it arrives, and it works on the store later, as one step, when
its turn comes; in between others arrive, work on the store or are given up, and the token may be
rotated. The turns need not be in the order of arrival. A record gets its identifier in its turn: an
identifier that was drawn earlier and is used now is as good as one that is drawn now, for the
supply gives out any sequence of different ones.

* `Traffic`: the server with the requests that were let in.
* `Traffic.Run`: what can come of a server that was started.
* `Traffic.Run.handled`: a request that is answered at once is one way for it to go.
* `Sound`, `Server.Sound.serve`: the invariant, and a request that keeps it.
* `Traffic.Run.store_consistent`: the store is consistent at every moment.
-/

namespace GameShelf.Backend

/-- The server, with the requests that were let in and have not worked on the store yet. -/
structure Traffic where
  server : Server
  admitted : List Request

namespace Traffic

/-- No requests so far, and no records. -/
def start (token : String) (supply : Supply) : Traffic :=
  ⟨.start token supply, []⟩

/-- A request is counted, and let in if it carries the accepted token. -/
def arrive (request : Request) (traffic : Traffic) : Traffic :=
  let server := { traffic.server with requests := traffic.server.requests + 1 }
  if isAuthorized server.token request.authorization then
    ⟨server, request :: traffic.admitted⟩
  else ⟨server, traffic.admitted⟩

/-- What can come of a server that was started without records. The store can be replaced at any
time by a consistent one, which must not have identifiers that are still to be given out. -/
inductive Run (token : String) (supply : Supply) : Traffic → Prop where
  | started : Run token supply (start token supply)
  | seeded {traffic : Traffic} (store : Store) (run : Run token supply traffic)
      (hstore : store.Consistent)
      (hunissued : ∀ n, traffic.server.issued ≤ n → supply.id n ∉ store.ids) :
      Run token supply ⟨traffic.server.seed store, traffic.admitted⟩
  | rotated {traffic : Traffic} (next : String) (run : Run token supply traffic) :
      Run token supply ⟨traffic.server.rotate next, traffic.admitted⟩
  | arrived {traffic : Traffic} (request : Request) (run : Run token supply traffic) :
      Run token supply (traffic.arrive request)
  | worked {server : Server} {admitted rest : List Request} {request : Request}
      (run : Run token supply ⟨server, admitted⟩) (hturn : admitted.Perm (request :: rest)) :
      Run token supply ⟨(server.serve request).2, rest⟩
  | givenUp {server : Server} {admitted rest : List Request} {request : Request}
      (run : Run token supply ⟨server, admitted⟩) (hturn : admitted.Perm (request :: rest)) :
      Run token supply ⟨server, rest⟩

/-- A request that is answered at once arrives and, if it is let in, works on the store. -/
theorem Run.handled {token : String} {supply : Supply} {server : Server} {admitted : List Request}
    (run : Run token supply ⟨server, admitted⟩) (request : Request) :
    Run token supply ⟨(server.handle request).2, admitted⟩ := by
  have harrived := run.arrived request
  unfold arrive at harrived
  simp only [Server.handle]
  by_cases hauthorized : isAuthorized server.token request.authorization = true
  · rw [if_pos hauthorized] at harrived ⊢
    exact harrived.worked (List.Perm.refl _)
  · rw [if_neg hauthorized] at harrived ⊢
    exact harrived

end Traffic

/-! ## The invariant -/

/-- The store is consistent, and no record has an identifier that is still to be given out. -/
structure Server.Sound (supply : Supply) (server : Server) : Prop where
  supply_eq : server.supply = supply
  consistent : server.store.Consistent
  unissued : ∀ n, server.issued ≤ n → supply.id n ∉ server.store.ids

namespace Server.Sound

variable {supply : Supply} {server : Server}

theorem start (token : String) : (Server.start token supply).Sound supply where
  supply_eq := rfl
  consistent := Store.consistent_empty
  unissued := by
    intro n _ hmem
    exact absurd hmem List.not_mem_nil

theorem arrive {admitted : List Request} (h : server.Sound supply) (request : Request) :
    (Traffic.arrive request ⟨server, admitted⟩).server.Sound supply := by
  simp only [Traffic.arrive]
  split
  · exact ⟨h.supply_eq, h.consistent, h.unissued⟩
  · exact ⟨h.supply_eq, h.consistent, h.unissued⟩

/-- A request that works on the store gives out an identifier only for a record that it creates,
and then it is the next one. -/
theorem serve (h : server.Sound supply) (hdistinct : Function.Injective supply.id)
    (request : Request) : (server.serve request).2.Sound supply := by
  have halters := dispatch_alters (server.supply.id server.issued)
    (server.supply.now server.issued) request server.store
  rw [h.supply_eq] at halters
  have hnext := h.unissued server.issued (Nat.le_refl _)
  have hconsistent := halters.consistent h.consistent hnext
  simp only [Server.serve, h.supply_eq]
  refine ⟨rfl, hconsistent, ?_⟩
  intro n hissued hmem
  dsimp only at hissued hmem
  rcases halters.mem_ids hmem with hold | ⟨hnew, hcreated⟩
  · -- the record was there before
    have hle : server.issued ≤ n := by
      split at hissued
      · omega
      · exact hissued
    exact h.unissued n hle hold
  · -- the record was created, so its identifier has been given out
    have hn := hdistinct hnew
    rw [if_pos hcreated] at hissued
    omega

end Server.Sound

/-! ## All runs -/

namespace Traffic

theorem Run.sound {token : String} {supply : Supply} {traffic : Traffic}
    (run : Run token supply traffic) (hdistinct : Function.Injective supply.id) :
    traffic.server.Sound supply := by
  -- a seed replaces the store, so it has to bring both halves of the invariant itself
  induction run with
  | started => exact .start token
  | seeded store run hstore hunissued ih => exact ⟨ih.supply_eq, hstore, hunissued⟩
  | rotated next run ih => exact ⟨ih.supply_eq, ih.consistent, ih.unissued⟩
  | arrived request run ih => exact ih.arrive request
  | worked run hturn ih => exact ih.serve hdistinct _
  | givenUp run hturn ih => exact ih

/-- Whatever requests arrive, in whichever order they work on the store and however the token is
rotated meanwhile, every compartment is in a place that is stored, and the identifiers of a
collection are different, if those that are given out are. -/
theorem Run.store_consistent {token : String} {supply : Supply} {traffic : Traffic}
    (run : Run token supply traffic) (hdistinct : Function.Injective supply.id) :
    traffic.server.store.Consistent :=
  (run.sound hdistinct).consistent

/-- Identifiers that grow longer and longer. -/
def tally : Supply where
  id := fun count => String.ofList (List.replicate count 'n')
  now := fun _ => "2024-01-01T00:00:00Z"

theorem tally_injective : Function.Injective tally.id := by
  intro one other h
  have hlength := congrArg String.length h
  simpa [tally] using hlength

/-- A store with one place and a compartment in it. -/
def atticStore : Store where
  places := [⟨"attic", "Attic", "house", none, none, "", ""⟩]
  compartments := [⟨"chest", "Chest", "box", "attic", none, none, 0, "", ""⟩]
  storefronts := []

theorem atticStore_consistent : atticStore.Consistent where
  placed := by decide
  places_nodup := by decide
  compartments_nodup := by decide
  storefronts_nodup := by decide

theorem tally_not_mem_atticStore (n : Nat) : tally.id n ∉ atticStore.ids := by
  intro hmem
  have hletter : ∀ id ∈ atticStore.ids, 't' ∈ id.toList := by decide
  have ht := hletter (tally.id n) hmem
  rw [tally, String.toList_ofList] at ht
  exact absurd (List.eq_of_mem_replicate ht) (by decide)

/-- A request for another compartment of the place. -/
def addShelf : Request where
  method := "POST"
  path := "/v1/locations/sublocations"
  authorization := some "Bearer old"
  contentType := some "application/json"
  body := .text
    "\x7b\"name\":\"Shelf\",\"location_type\":\"shelf\",\"parent_location_id\":\"attic\"\x7d"

/-- A request to delete the place. -/
def dropAttic : Request where
  method := "DELETE"
  path := "/v1/locations/physical/attic"
  authorization := some "Bearer old"
  contentType := none
  body := .empty

/-- Both requests are let in before the token is rotated. -/
def bothAdmitted : Traffic :=
  let seeded : Traffic := ⟨(Server.start "old" tally).seed atticStore, []⟩
  let admitted := (seeded.arrive addShelf).arrive dropAttic
  ⟨admitted.server.rotate "new", admitted.admitted⟩

theorem bothAdmitted_run : Run "old" tally bothAdmitted := by
  have hstarted : Run "old" tally (start "old" tally) := .started
  have hseeded := hstarted.seeded atticStore atticStore_consistent
    fun n _ => tally_not_mem_atticStore n
  exact ((hseeded.arrived addShelf).arrived dropAttic).rotated "new"

/-- The place is deleted first, and so the compartment that was to be created in it is refused. -/
theorem deletedFirst_consistent :
    Function.Injective tally.id ∧ bothAdmitted.admitted = [dropAttic, addShelf] ∧
      ((bothAdmitted.server.serve dropAttic).2.serve addShelf).1.status = 422 ∧
      ((bothAdmitted.server.serve dropAttic).2.serve addShelf).2.store.Consistent := by
  have hadmitted : bothAdmitted.admitted = [dropAttic, addShelf] := by decide +kernel
  have hrefused : ((bothAdmitted.server.serve dropAttic).2.serve addShelf).1.status = 422 := by
    decide +kernel
  have hturn : bothAdmitted.admitted.Perm [dropAttic, addShelf] := hadmitted ▸ List.Perm.refl _
  have hrun := (bothAdmitted_run.worked hturn).worked (List.Perm.refl _)
  exact ⟨tally_injective, hadmitted, hrefused, Run.store_consistent hrun tally_injective⟩

end Traffic

end GameShelf.Backend
