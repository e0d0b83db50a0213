import GameShelf.Backend.Server

/-!
# A store that holds together

In a consistent store every compartment is in a place that is stored, and no collection has two
records of one identifier. No operation breaks this, as long as a new record gets a new identifier.

* `Store.Consistent`: what holds of such a store.
* `Alters`, `dispatch_alters`: all that a request can make of a store.
* `AddsNothing`: alterations that only alter or take away; the others add one record.
* `Alters.consistent`, `Alters.mem_ids`: a store stays consistent, and the only new identifier is
  the one that a created record got.
-/

namespace GameShelf.Backend

/-- The identifiers of all records of a store. -/
def Store.ids (store : Store) : List String :=
  store.places.map Place.id ++ store.compartments.map Compartment.id ++
    store.storefronts.map Storefront.id

/-- Compartments are in places of the store, and records of one collection have different
identifiers. -/
structure Store.Consistent (store : Store) : Prop where
  placed : ∀ compartment ∈ store.compartments, compartment.placeId ∈ store.places.map Place.id
  places_nodup : (store.places.map Place.id).Nodup
  compartments_nodup : (store.compartments.map Compartment.id).Nodup
  storefronts_nodup : (store.storefronts.map Storefront.id).Nodup

theorem Store.mem_ids {store : Store} {id : String} :
    id ∈ store.ids ↔ id ∈ store.places.map Place.id ∨ id ∈ store.compartments.map Compartment.id ∨
      id ∈ store.storefronts.map Storefront.id := by
  rw [ids, List.mem_append, List.mem_append, or_assoc]

theorem Store.consistent_empty : Store.empty.Consistent where
  placed := by
    intro compartment h
    exact absurd h List.not_mem_nil
  places_nodup := List.nodup_nil
  compartments_nodup := List.nodup_nil
  storefronts_nodup := List.nodup_nil

/-! ## What a request can make of a store -/

/-- What operations make of a store. `id` and `now` are for a record that is created or altered. -/
inductive Alters (id now : String) (store : Store) : Answer × Store → Prop where
  | keeps (answer : Answer) : Alters id now store (answer, store)
  | createsPlace (input : CreatePlace) : Alters id now store (store.createPlace id now input)
  | updatesPlace (target : String) (input : UpdatePlace) :
      Alters id now store (store.updatePlace now target input)
  | deletesPlace (target : String) : Alters id now store (store.deletePlace target)
  | createsCompartment (input : CreateCompartment) :
      Alters id now store (store.createCompartment id now input)
  | deletesCompartment (target : String) : Alters id now store (store.deleteCompartment target)
  | createsStorefront (input : CreateStorefront) :
      Alters id now store (store.createStorefront id now input)
  | updatesStorefront (target : String) (input : UpdateStorefront) :
      Alters id now store (store.updateStorefront now target input)
  | deletesStorefront (target : String) : Alters id now store (store.deleteStorefront target)

section

variable (id now : String) (request : Request) (store : Store)

/-- A part that is refused keeps the store, and otherwise it goes on. -/
theorem orRefuse_alters {α : Type} (first : Except Answer α)
    {next : α → Except Answer (Answer × Store)}
    (hnext : ∀ a, Alters id now store (orRefuse store (next a))) :
    Alters id now store (orRefuse store (first.bind next)) := by
  cases first with
  | error refusal => exact .keeps refusal
  | ok a => exact hnext a

theorem perform_alters (operation : Operation) :
    Alters id now store (perform id now request operation store) := by
  unfold perform
  cases operation with
  | library => exact .keeps _
  | batch => exact .keeps _
  | listPlaces => exact .keeps _
  | listStorefronts => exact .keeps _
  | getPlace segment => exact orRefuse_alters _ _ _ _ fun _ => .keeps _
  | getStorefront segment => exact orRefuse_alters _ _ _ _ fun _ => .keeps _
  | createPlace => exact orRefuse_alters _ _ _ _ fun input => .createsPlace input
  | createCompartment => exact orRefuse_alters _ _ _ _ fun input => .createsCompartment input
  | createStorefront => exact orRefuse_alters _ _ _ _ fun input => .createsStorefront input
  | updatePlace segment =>
    exact orRefuse_alters _ _ _ _ fun target =>
      orRefuse_alters _ _ _ _ fun input => .updatesPlace target input
  | updateStorefront segment =>
    exact orRefuse_alters _ _ _ _ fun target =>
      orRefuse_alters _ _ _ _ fun input => .updatesStorefront target input
  | deletePlace segment => exact orRefuse_alters _ _ _ _ fun target => .deletesPlace target
  | deleteCompartment segment =>
    exact orRefuse_alters _ _ _ _ fun target => .deletesCompartment target
  | deleteStorefront segment =>
    exact orRefuse_alters _ _ _ _ fun target => .deletesStorefront target

/-- Whatever a request asks for, its path, method and body lead to one of the alterations. -/
theorem dispatch_alters : Alters id now store (dispatch id now request store) := by
  unfold dispatch
  split
  · exact .keeps _
  · split
    · exact .keeps _
    · exact perform_alters id now request store _

end

/-! ## Alterations without a new record -/

section

variable {α κ : Type} {test : α → Bool}

/-- A replacement that keeps the key keeps all keys. -/
theorem map_replaceFirst? {replace : α → α} (key : α → κ) {list rest : List α} {new : α}
    (h : replaceFirst? test replace list = some (new, rest))
    (hkey : ∀ a, key (replace a) = key a) : rest.map key = list.map key := by
  induction list generalizing rest with
  | nil => exact absurd h (by simp [replaceFirst?])
  | cons a list ih =>
    rw [replaceFirst?] at h
    split at h
    · rcases Prod.mk.inj (Option.some.inj h) with ⟨-, rfl⟩
      rw [List.map_cons, List.map_cons, hkey]
    · rcases Option.map_eq_some_iff.mp h with ⟨⟨found, others⟩, hothers, heq⟩
      rcases Prod.mk.inj heq with ⟨rfl, rfl⟩
      rw [List.map_cons, List.map_cons, ih hothers]

/-- What is left when a member is taken out stands as it stood. -/
theorem sublist_of_removeFirst? {list rest : List α} {removed : α}
    (h : removeFirst? test list = some (removed, rest)) : rest.Sublist list := by
  induction list generalizing rest with
  | nil => exact absurd h (by simp [removeFirst?])
  | cons a list ih =>
    rw [removeFirst?] at h
    split at h
    · rcases Prod.mk.inj (Option.some.inj h) with ⟨rfl, rfl⟩
      exact List.sublist_cons_self _ _
    · rcases Option.map_eq_some_iff.mp h with ⟨⟨found, others⟩, hothers, heq⟩
      rcases Prod.mk.inj heq with ⟨rfl, rfl⟩
      exact (ih hothers).cons_cons a

end

/-- A store after an alteration that creates nothing: no new identifiers, no compartment that was
not there, and none without its place. -/
structure AddsNothing (before after : Store) : Prop where
  places : (after.places.map Place.id).Sublist (before.places.map Place.id)
  compartments : after.compartments.Sublist before.compartments
  storefronts : (after.storefronts.map Storefront.id).Sublist (before.storefronts.map Storefront.id)
  placed : ∀ compartment ∈ after.compartments,
    compartment.placeId ∈ before.places.map Place.id →
      compartment.placeId ∈ after.places.map Place.id

namespace AddsNothing

variable {before after : Store}

theorem refl (store : Store) : AddsNothing store store :=
  ⟨List.Sublist.refl _, List.Sublist.refl _, List.Sublist.refl _, fun _ _ h => h⟩

theorem consistent (h : AddsNothing before after) (hbefore : before.Consistent) :
    after.Consistent where
  placed := by
    intro compartment hmem
    have hplaced := hbefore.placed compartment (h.compartments.subset hmem)
    exact h.placed compartment hmem hplaced
  places_nodup := hbefore.places_nodup.sublist h.places
  compartments_nodup := hbefore.compartments_nodup.sublist (h.compartments.map Compartment.id)
  storefronts_nodup := hbefore.storefronts_nodup.sublist h.storefronts

theorem mem_ids (h : AddsNothing before after) {id : String} (hmem : id ∈ after.ids) :
    id ∈ before.ids := by
  rw [Store.mem_ids] at hmem ⊢
  rcases hmem with hplace | hcompartment | hstorefront
  · exact .inl (h.places.subset hplace)
  · exact .inr (.inl ((h.compartments.map Compartment.id).subset hcompartment))
  · exact .inr (.inr (h.storefronts.subset hstorefront))

end AddsNothing

namespace Store

variable (store : Store) (now target : String)

theorem updatePlace_addsNothing (input : UpdatePlace) :
    AddsNothing store (store.updatePlace now target input).2 := by
  unfold updatePlace
  split
  · rename_i new places hreplace
    have hids : places.map Place.id = store.places.map Place.id :=
      map_replaceFirst? Place.id hreplace fun _ => rfl
    refine ⟨hids ▸ List.Sublist.refl _, List.Sublist.refl _, List.Sublist.refl _, ?_⟩
    intro compartment _ hplaced
    rw [← hids] at hplaced
    exact hplaced
  · exact .refl store

/-- A place goes with its compartments. -/
theorem deletePlace_addsNothing : AddsNothing store (store.deletePlace target).2 := by
  simp only [deletePlace]
  split
  · exact .refl store
  · refine ⟨List.filter_sublist.map Place.id, List.filter_sublist, List.Sublist.refl _, ?_⟩
    intro compartment hmem hplaced
    -- its place is another one, and so it is still there
    have hother := (List.mem_filter.mp hmem).2
    rcases List.mem_map.mp hplaced with ⟨place, hplace, hid⟩
    rw [← hid] at hother ⊢
    exact List.mem_map_of_mem (List.mem_filter.mpr ⟨hplace, hother⟩)

theorem deleteCompartment_addsNothing : AddsNothing store (store.deleteCompartment target).2 := by
  unfold deleteCompartment
  split
  · rename_i removed compartments hremove
    exact ⟨List.Sublist.refl _, sublist_of_removeFirst? hremove, List.Sublist.refl _,
      fun _ _ hplaced => hplaced⟩
  · exact .refl store

theorem updateStorefront_addsNothing (input : UpdateStorefront) :
    AddsNothing store (store.updateStorefront now target input).2 := by
  unfold updateStorefront
  split
  · rename_i new storefronts hreplace
    have hids : storefronts.map Storefront.id = store.storefronts.map Storefront.id :=
      map_replaceFirst? Storefront.id hreplace fun _ => rfl
    exact ⟨List.Sublist.refl _, List.Sublist.refl _, hids ▸ List.Sublist.refl _,
      fun _ _ hplaced => hplaced⟩
  · exact .refl store

theorem deleteStorefront_addsNothing : AddsNothing store (store.deleteStorefront target).2 := by
  simp only [deleteStorefront]
  split
  · exact .refl store
  · exact ⟨List.Sublist.refl _, List.Sublist.refl _, List.filter_sublist.map Storefront.id,
      fun _ _ hplaced => hplaced⟩

end Store

/-! ## New records -/

/-- A list of different keys with a new one at the end. -/
theorem nodup_map_concat {α κ : Type} (key : α → κ) {list : List α} {last : α}
    (h : (list.map key).Nodup) (hfresh : key last ∉ list.map key) :
    ((list ++ [last]).map key).Nodup := by
  rw [List.map_append, List.nodup_append]
  refine ⟨h, List.pairwise_singleton _ _, ?_⟩
  rintro k hk other hother rfl
  rw [List.map_singleton, List.mem_singleton] at hother
  exact hfresh (hother ▸ hk)

theorem mem_map_concat {α κ : Type} (key : α → κ) {list : List α} {last : α} {k : κ}
    (h : k ∈ (list ++ [last]).map key) : k ∈ list.map key ∨ k = key last := by
  rw [List.map_append, List.mem_append] at h
  rcases h with hold | hnew
  · exact .inl hold
  · exact .inr (List.mem_singleton.mp hnew)

namespace Store.Consistent

variable {store : Store} {id : String}

theorem createPlace (h : store.Consistent) (hfresh : id ∉ store.ids) (now : String)
    (input : CreatePlace) : (store.createPlace id now input).2.Consistent := by
  rw [mem_ids, not_or] at hfresh
  constructor
  case placed =>
    intro compartment hmem
    have hplaced := h.placed compartment hmem
    simp only [Store.createPlace, List.map_append, List.mem_append]
    exact .inl hplaced
  case places_nodup => exact nodup_map_concat Place.id h.places_nodup hfresh.1
  case compartments_nodup => exact h.compartments_nodup
  case storefronts_nodup => exact h.storefronts_nodup

/-- A compartment is created only where its place is found. -/
theorem createCompartment (h : store.Consistent) (hfresh : id ∉ store.ids) (now : String)
    (input : CreateCompartment) : (store.createCompartment id now input).2.Consistent := by
  rw [mem_ids, not_or, not_or] at hfresh
  unfold Store.createCompartment
  split
  · rename_i hparent
    rcases List.any_eq_true.mp hparent with ⟨place, hplace, hid⟩
    constructor
    case placed =>
      intro compartment hmem
      rcases List.mem_append.mp hmem with hold | hnew
      · exact h.placed compartment hold
      · obtain rfl := List.mem_singleton.mp hnew
        exact List.mem_map.mpr ⟨place, hplace, beq_iff_eq.mp hid⟩
    case places_nodup => exact h.places_nodup
    case compartments_nodup =>
      exact nodup_map_concat Compartment.id h.compartments_nodup hfresh.2.1
    case storefronts_nodup => exact h.storefronts_nodup
  · exact h

theorem createStorefront (h : store.Consistent) (hfresh : id ∉ store.ids) (now : String)
    (input : CreateStorefront) : (store.createStorefront id now input).2.Consistent where
  placed := h.placed
  places_nodup := h.places_nodup
  compartments_nodup := h.compartments_nodup
  storefronts_nodup := by
    rw [mem_ids, not_or, not_or] at hfresh
    exact nodup_map_concat Storefront.id h.storefronts_nodup hfresh.2.2

end Store.Consistent

/-! ## All alterations -/

section

variable {id now : String} {store : Store} {result : Answer × Store}

/-- A consistent store stays so, if a new record gets an identifier that no other has. -/
theorem Alters.consistent (h : Alters id now store result) (hstore : store.Consistent)
    (hfresh : id ∉ store.ids) : result.2.Consistent := by
  cases h with
  | keeps answer => exact hstore
  | createsPlace input => exact hstore.createPlace hfresh now input
  | updatesPlace target input => exact (store.updatePlace_addsNothing ..).consistent hstore
  | deletesPlace target => exact (store.deletePlace_addsNothing ..).consistent hstore
  | createsCompartment input => exact hstore.createCompartment hfresh now input
  | deletesCompartment target => exact (store.deleteCompartment_addsNothing ..).consistent hstore
  | createsStorefront input => exact hstore.createStorefront hfresh now input
  | updatesStorefront target input =>
    exact (store.updateStorefront_addsNothing ..).consistent hstore
  | deletesStorefront target => exact (store.deleteStorefront_addsNothing ..).consistent hstore

/-- An identifier that was not there is that of a record that was created, as the answer says. -/
theorem Alters.mem_ids (h : Alters id now store result) {other : String}
    (hmem : other ∈ result.2.ids) :
    other ∈ store.ids ∨ other = id ∧ result.1.status = 201 := by
  cases h with
  | keeps answer => exact .inl hmem
  | updatesPlace target input => exact .inl ((store.updatePlace_addsNothing ..).mem_ids hmem)
  | deletesPlace target => exact .inl ((store.deletePlace_addsNothing ..).mem_ids hmem)
  | deletesCompartment target =>
    exact .inl ((store.deleteCompartment_addsNothing ..).mem_ids hmem)
  | updatesStorefront target input =>
    exact .inl ((store.updateStorefront_addsNothing ..).mem_ids hmem)
  | deletesStorefront target => exact .inl ((store.deleteStorefront_addsNothing ..).mem_ids hmem)
  | createsPlace input =>
    rcases Store.mem_ids.mp hmem with hplace | hold
    · rcases mem_map_concat Place.id hplace with hold | hnew
      · exact .inl (Store.mem_ids.mpr (.inl hold))
      · exact .inr ⟨hnew, rfl⟩
    · exact .inl (Store.mem_ids.mpr (.inr hold))
  | createsCompartment input =>
    unfold Store.createCompartment at hmem ⊢
    by_cases hparent : store.places.any (fun place => place.id == input.placeId) = true
    · rw [if_pos hparent] at hmem ⊢
      rcases Store.mem_ids.mp hmem with hold | hcompartment | hold
      · exact .inl (Store.mem_ids.mpr (.inl hold))
      · rcases mem_map_concat Compartment.id hcompartment with hold | hnew
        · exact .inl (Store.mem_ids.mpr (.inr (.inl hold)))
        · exact .inr ⟨hnew, rfl⟩
      · exact .inl (Store.mem_ids.mpr (.inr (.inr hold)))
    · rw [if_neg hparent] at hmem
      exact .inl hmem
  | createsStorefront input =>
    rcases Store.mem_ids.mp hmem with hold | hold | hstorefront
    · exact .inl (Store.mem_ids.mpr (.inl hold))
    · exact .inl (Store.mem_ids.mpr (.inr (.inl hold)))
    · rcases mem_map_concat Storefront.id hstorefront with hold | hnew
      · exact .inl (Store.mem_ids.mpr (.inr (.inr hold)))
      · exact .inr ⟨hnew, rfl⟩

end

end GameShelf.Backend
