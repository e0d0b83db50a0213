import Mathlib.Data.List.Nodup
import GameShelf.Proofs.Backend.Agreement
import GameShelf.Proofs.Backend.Consistency

/-!
# What is answered after an alteration

Whoever asks for a place or a storefront after it was altered gets the answer that the alteration
had. What was deleted is not found, and its compartments are gone from the store.

* `Store.Unused`: an identifier that no record of a store has or names.
* `getPlace_createPlace`, `getPlace_updatePlace`, `getStorefront_createStorefront`,
  `getStorefront_updateStorefront`: what was created or altered is found.
* `getPlace_deletePlace`, `getStorefront_deleteStorefront`: what was deleted is not.
* `deletePlace_compartments`, `deleteCompartment_compartments`: which compartments are gone.
-/

namespace GameShelf.Backend

/-! ## Lists -/

section

variable {α : Type} {test : α → Bool}

/-- A replacement is found by who looks for what was replaced. -/
theorem find?_replaced {replace : α → α} {list rest : List α} {new : α}
    (h : replaceFirst? test replace list = some (new, rest))
    (hstill : ∀ a, test a = true → test (replace a) = true) : rest.find? test = some new := by
  induction list generalizing rest with
  | nil => exact absurd h (by simp [replaceFirst?])
  | cons a list ih =>
    rw [replaceFirst?] at h
    split at h
    · rename_i htest
      rcases Prod.mk.inj (Option.some.inj h) with ⟨rfl, rfl⟩
      rw [List.find?_cons, hstill a htest]
    · rename_i htest
      rcases Option.map_eq_some_iff.mp h with ⟨⟨found, others⟩, hothers, heq⟩
      rcases Prod.mk.inj heq with ⟨rfl, rfl⟩
      rw [List.find?_cons, Bool.eq_false_iff.mpr htest]
      exact ih hothers

/-- Where nothing is replaced, nothing is found. -/
theorem find?_of_replaceFirst?_eq_none {replace : α → α} {list : List α}
    (h : replaceFirst? test replace list = none) : list.find? test = none := by
  have hnone := congrArg Option.isSome h
  rw [isSome_replaceFirst?, ← List.isSome_find?] at hnone
  exact Option.not_isSome_iff_eq_none.mp (Bool.eq_false_iff.mp hnone)

/-- Who looks for a key finds nothing in a list without it. -/
theorem find?_filter_key {κ : Type} [DecidableEq κ] (key : α → κ) (k : κ) (list : List α) :
    (list.filter fun a => key a != k).find? (fun a => key a == k) = none := by
  rw [List.find?_eq_none]
  intro a ha
  have hother := (List.mem_filter.mp ha).2
  simpa using hother

/-- If all of a list is without a key, nothing is found. -/
theorem find?_of_length_filter_key {κ : Type} [DecidableEq κ] {key : α → κ} {k : κ}
    {list : List α} (h : (list.filter fun a => key a != k).length = list.length) :
    list.find? (fun a => key a == k) = none := by
  have hall := List.filter_eq_self.mpr (List.length_filter_eq_length_iff.mp h)
  rw [← hall]
  exact find?_filter_key key k list

/-- What is taken out of a list is no longer there. -/
theorem perm_removeFirst? {list rest : List α} {removed : α}
    (h : removeFirst? test list = some (removed, rest)) : list.Perm (removed :: rest) := by
  induction list generalizing rest with
  | nil => exact absurd h (by simp [removeFirst?])
  | cons a list ih =>
    rw [removeFirst?] at h
    split at h
    · rcases Prod.mk.inj (Option.some.inj h) with ⟨rfl, rfl⟩
      exact List.Perm.refl _
    · rcases Option.map_eq_some_iff.mp h with ⟨⟨found, others⟩, hothers, heq⟩
      rcases Prod.mk.inj heq with ⟨rfl, rfl⟩
      exact ((ih hothers).cons a).trans (List.Perm.swap found a others)

end

namespace Store

/-- No record of a store has an identifier, and no compartment names it as its place. -/
structure Unused (store : Store) (id : String) : Prop where
  unrecorded : id ∉ store.ids
  unnamed : id ∉ store.compartments.map Compartment.placeId

section

variable (id now : String) (store : Store)

/-! ## Places -/

/-- The answer to the creation of a place is the one about the place afterwards, but for its
status. -/
theorem getPlace_createPlace (hunused : store.Unused id) (input : CreatePlace) :
    (store.createPlace id now input).1.status = 201 ∧
      (store.createPlace id now input).2.getPlace id =
        ⟨200, (store.createPlace id now input).1.body⟩ := by
  refine ⟨rfl, ?_⟩
  -- the new place is the only one with its identifier, and no compartment names it
  have hnone : store.places.find? (fun place => place.id == id) = none := by
    rw [List.find?_eq_none]
    intro place hplace hid
    have hmem : place.id ∈ store.places.map Place.id := List.mem_map_of_mem hplace
    exact hunused.unrecorded (mem_ids.mpr (.inl (beq_iff_eq.mp hid ▸ hmem)))
  have hempty : (store.compartments.filter fun compartment => compartment.placeId == id) = [] := by
    rw [List.filter_eq_nil_iff]
    intro compartment hcompartment hid
    exact hunused.unnamed (beq_iff_eq.mp hid ▸ List.mem_map_of_mem hcompartment)
  simp only [getPlace, findPlace?, createPlace, List.find?_append, hnone, Option.none_or,
    List.find?_singleton, beq_self_eq_true, if_true, Place.withCompartments, hempty]
  rfl

/-- The answer to the alteration of a place is the one about the place afterwards. -/
theorem getPlace_updatePlace (input : UpdatePlace) :
    (store.updatePlace now id input).2.getPlace id = (store.updatePlace now id input).1 := by
  unfold updatePlace
  split
  · rename_i new places hreplace
    have hfound := find?_replaced hreplace fun place hplace => hplace
    simp only [getPlace, findPlace?, hfound]
  · rename_i hreplace
    have hnone := find?_of_replaceFirst?_eq_none hreplace
    simp only [getPlace, findPlace?, hnone]

/-- A place that was deleted is not found. -/
theorem getPlace_deletePlace : (store.deletePlace id).2.getPlace id = locationNotFound := by
  simp only [deletePlace]
  split
  · rename_i hlength
    simp only [getPlace, findPlace?, find?_of_length_filter_key hlength]
  · simp only [getPlace, findPlace?, find?_filter_key Place.id id store.places]

/-- The compartments of a place that was deleted are gone. -/
theorem deletePlace_compartments (hnodup : (store.compartments.map Compartment.id).Nodup)
    (hdeleted : (store.deletePlace id).1 ≠ locationNotFound) {compartment : Compartment}
    (hmem : compartment ∈ store.compartments) (hplace : compartment.placeId = id) :
    compartment.id ∉ (store.deletePlace id).2.compartments.map Compartment.id := by
  simp only [deletePlace] at hdeleted ⊢
  split at hdeleted
  · exact absurd rfl hdeleted
  · rename_i hlength
    rw [if_neg hlength]
    intro hid
    rcases List.mem_map.mp hid with ⟨other, hother, hsame⟩
    rcases List.mem_filter.mp hother with ⟨hin, hne⟩
    -- what is left with the identifier would be the same compartment
    have heq := List.inj_on_of_nodup_map hnodup hin hmem hsame
    rw [heq, hplace, bne_self_eq_false] at hne
    exact Bool.false_ne_true hne

/-! ## Compartments -/

/-- A compartment that was deleted is gone. -/
theorem deleteCompartment_compartments (hnodup : (store.compartments.map Compartment.id).Nodup)
    (hdeleted : (store.deleteCompartment id).1 ≠ compartmentNotFound) :
    id ∉ (store.deleteCompartment id).2.compartments.map Compartment.id := by
  unfold deleteCompartment at hdeleted ⊢
  split at hdeleted
  · rename_i removed rest hremove
    have htest := of_removeFirst? hremove
    have hid : removed.id = id := beq_iff_eq.mp htest
    -- only the first is removed, and there is no second
    have hperm := (perm_removeFirst? hremove).map Compartment.id
    have hrest := (List.nodup_cons.mp (hperm.nodup_iff.mp hnodup)).1
    exact hid ▸ hrest
  · exact absurd rfl hdeleted

/-! ## Storefronts -/

/-- The answer to the creation of a storefront is the one about the storefront afterwards, but for
its status. -/
theorem getStorefront_createStorefront (hunused : store.Unused id) (input : CreateStorefront) :
    (store.createStorefront id now input).1.status = 201 ∧
      (store.createStorefront id now input).2.getStorefront id =
        ⟨200, (store.createStorefront id now input).1.body⟩ := by
  refine ⟨rfl, ?_⟩
  have hnone : store.storefronts.find? (fun storefront => storefront.id == id) = none := by
    rw [List.find?_eq_none]
    intro storefront hstorefront hid
    have hmem : storefront.id ∈ store.storefronts.map Storefront.id :=
      List.mem_map_of_mem hstorefront
    exact hunused.unrecorded (mem_ids.mpr (.inr (.inr (beq_iff_eq.mp hid ▸ hmem))))
  simp only [getStorefront, createStorefront, List.find?_append, hnone, Option.none_or,
    List.find?_singleton, beq_self_eq_true, if_true]
  rfl

/-- The answer to the alteration of a storefront is the one about the storefront afterwards. -/
theorem getStorefront_updateStorefront (input : UpdateStorefront) :
    (store.updateStorefront now id input).2.getStorefront id =
      (store.updateStorefront now id input).1 := by
  unfold updateStorefront
  split
  · rename_i new storefronts hreplace
    have hfound := find?_replaced hreplace fun storefront hstorefront => hstorefront
    simp only [getStorefront, hfound]
  · rename_i hreplace
    have hnone := find?_of_replaceFirst?_eq_none hreplace
    simp only [getStorefront, hnone]

/-- A storefront that was deleted is not found. -/
theorem getStorefront_deleteStorefront :
    (store.deleteStorefront id).2.getStorefront id = locationNotFound := by
  simp only [deleteStorefront]
  split
  · rename_i hlength
    simp only [getStorefront, find?_of_length_filter_key hlength]
  · simp only [getStorefront, find?_filter_key Storefront.id id store.storefronts]

end

end Store

end GameShelf.Backend
