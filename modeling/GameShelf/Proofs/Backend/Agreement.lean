import GameShelf.Backend.Store

/-!
# What alterations leave alone

An operation that alters a place or a compartment leaves alone what the store answers about every
other place, and all storefronts; one that alters a storefront leaves alone the other storefronts
and all places.

* `AgreeButPlace`, `AgreeButStorefront`: two stores that differ in one place or storefront.
* One lemma for each alteration, in the namespace of `Backend.Store`.
-/

namespace GameShelf.Backend

/-! ## Lists -/

section

variable {α : Type} {test : α → Bool}

/-- A replacement is not seen by who looks for something else. -/
theorem find?_replaceFirst? {replace : α → α} {list rest : List α} {new : α}
    (h : replaceFirst? test replace list = some (new, rest)) {wanted : α → Bool}
    (hother : ∀ a, test a = true → wanted a = false ∧ wanted (replace a) = false) :
    rest.find? wanted = list.find? wanted := by
  induction list generalizing rest with
  | nil => exact absurd h (by simp [replaceFirst?])
  | cons a list ih =>
    rw [replaceFirst?] at h
    split at h
    · rename_i htest
      rcases Prod.mk.inj (Option.some.inj h) with ⟨-, rfl⟩
      rcases hother a htest with ⟨hold, hnew⟩
      rw [List.find?_cons, List.find?_cons, hold, hnew]
    · rcases Option.map_eq_some_iff.mp h with ⟨⟨found, others⟩, hothers, heq⟩
      rcases Prod.mk.inj heq with ⟨rfl, rfl⟩
      rw [List.find?_cons, List.find?_cons, ih hothers]

/-- Nor by who picks out something else. -/
theorem filter_replaceFirst? {replace : α → α} {list rest : List α} {new : α}
    (h : replaceFirst? test replace list = some (new, rest)) {wanted : α → Bool}
    (hother : ∀ a, test a = true → wanted a = false ∧ wanted (replace a) = false) :
    rest.filter wanted = list.filter wanted := by
  induction list generalizing rest with
  | nil => exact absurd h (by simp [replaceFirst?])
  | cons a list ih =>
    rw [replaceFirst?] at h
    split at h
    · rename_i htest
      rcases Prod.mk.inj (Option.some.inj h) with ⟨-, rfl⟩
      rcases hother a htest with ⟨hold, hnew⟩
      rw [List.filter_cons, List.filter_cons, hold, hnew]
      rfl
    · rcases Option.map_eq_some_iff.mp h with ⟨⟨found, others⟩, hothers, heq⟩
      rcases Prod.mk.inj heq with ⟨rfl, rfl⟩
      rw [List.filter_cons, List.filter_cons, ih hothers]

/-- A member is replaced if one satisfies the test. -/
theorem isSome_replaceFirst? {replace : α → α} {list : List α} :
    (replaceFirst? test replace list).isSome = list.any test := by
  induction list with
  | nil => rfl
  | cons a rest ih =>
    rw [replaceFirst?, List.any_cons]
    split
    · rename_i htest
      rw [htest, Bool.true_or, Option.isSome_some]
    · rename_i htest
      rw [Option.isSome_map, ih, Bool.eq_false_iff.mpr htest, Bool.false_or]

/-- A member is taken out if one satisfies the test. -/
theorem isSome_removeFirst? {list : List α} :
    (removeFirst? test list).isSome = list.any test := by
  induction list with
  | nil => rfl
  | cons a rest ih =>
    rw [removeFirst?, List.any_cons]
    split
    · rename_i htest
      rw [htest, Bool.true_or, Option.isSome_some]
    · rename_i htest
      rw [Option.isSome_map, ih, Bool.eq_false_iff.mpr htest, Bool.false_or]

/-- What is taken out satisfies the test. -/
theorem of_removeFirst? {list rest : List α} {removed : α}
    (h : removeFirst? test list = some (removed, rest)) : test removed = true := by
  induction list generalizing rest with
  | nil => exact absurd h (by simp [removeFirst?])
  | cons a list ih =>
    rw [removeFirst?] at h
    split at h
    · rename_i htest
      rcases Prod.mk.inj (Option.some.inj h) with ⟨rfl, -⟩
      exact htest
    · rcases Option.map_eq_some_iff.mp h with ⟨⟨found, others⟩, hothers, heq⟩
      rcases Prod.mk.inj heq with ⟨rfl, rfl⟩
      exact ih hothers

/-- What is taken out is not missed by who does not want it. -/
theorem filter_removeFirst? {list rest : List α} {removed : α}
    (h : removeFirst? test list = some (removed, rest)) {wanted : α → Bool}
    (hother : wanted removed = false) : rest.filter wanted = list.filter wanted := by
  induction list generalizing rest with
  | nil => exact absurd h (by simp [removeFirst?])
  | cons a list ih =>
    rw [removeFirst?] at h
    split at h
    · rcases Prod.mk.inj (Option.some.inj h) with ⟨rfl, rfl⟩
      rw [List.filter_cons, hother]
      rfl
    · rcases Option.map_eq_some_iff.mp h with ⟨⟨found, others⟩, hothers, heq⟩
      rcases Prod.mk.inj heq with ⟨rfl, rfl⟩
      rw [List.filter_cons, List.filter_cons, ih hothers]

/-- What is put at the end is not seen by who looks for something else. -/
theorem find?_concat {list : List α} {last : α} {wanted : α → Bool} (h : wanted last = false) :
    (list ++ [last]).find? wanted = list.find? wanted := by
  rw [List.find?_append, List.find?_singleton, h]
  exact Option.or_none

end

/-! ## Stores -/

/-- Two stores answer alike about all places but one, and have the same storefronts. -/
structure AgreeButPlace (id : String) (before after : Store) : Prop where
  places : ∀ other, other ≠ id → after.getPlace other = before.getPlace other
  storefronts : after.storefronts = before.storefronts

/-- Two stores answer alike about all storefronts but one, and have the same places with the same
compartments. -/
structure AgreeButStorefront (id : String) (before after : Store) : Prop where
  storefronts : ∀ other, other ≠ id → after.getStorefront other = before.getStorefront other
  places : after.places = before.places
  compartments : after.compartments = before.compartments

theorem AgreeButPlace.refl (id : String) (store : Store) : AgreeButPlace id store store :=
  ⟨fun _ _ => rfl, rfl⟩

theorem AgreeButStorefront.refl (id : String) (store : Store) : AgreeButStorefront id store store :=
  ⟨fun _ _ => rfl, rfl, rfl⟩

namespace Store

/-- The answer about a place depends on the place that is found and on the compartments in it. -/
theorem getPlace_congr {before after : Store} {id : String}
    (hplace : after.findPlace? id = before.findPlace? id)
    (hinside : (after.compartments.filter fun compartment => compartment.placeId == id) =
      before.compartments.filter fun compartment => compartment.placeId == id) :
    after.getPlace id = before.getPlace id := by
  rw [getPlace, getPlace, hplace]
  cases hfound : before.findPlace? id with
  | none => rfl
  | some place =>
    have hid : place.id = id := by
      have htest := List.find?_some hfound
      exact beq_iff_eq.mp htest
    simp only [Place.withCompartments, hid, hinside]

variable (id now : String) (store : Store)

/-! ## Places -/

theorem createPlace_agree (input : CreatePlace) :
    AgreeButPlace id store (store.createPlace id now input).2 := by
  refine ⟨?_, rfl⟩
  intro other hother
  exact getPlace_congr (find?_concat (beq_false_of_ne hother.symm)) rfl

theorem updatePlace_agree (input : UpdatePlace) :
    AgreeButPlace id store (store.updatePlace now id input).2 := by
  unfold updatePlace
  split
  · rename_i new places hreplace
    refine ⟨?_, rfl⟩
    intro other hother
    refine getPlace_congr (find?_replaceFirst? hreplace ?_) rfl
    -- a place keeps its identifier
    intro place hplace
    have hid : place.id = id := beq_iff_eq.mp hplace
    have hne : (place.id == other) = false := beq_false_of_ne (hid ▸ hother.symm)
    exact ⟨hne, hne⟩
  · exact .refl _ store

theorem deletePlace_agree : AgreeButPlace id store (store.deletePlace id).2 := by
  simp only [deletePlace]
  split
  · exact .refl _ store
  · refine ⟨?_, rfl⟩
    intro other hother
    apply getPlace_congr
    · -- what is deleted was not found anyway
      rw [findPlace?, findPlace?, List.find?_filter]
      congr 1
      funext place
      by_cases hid : place.id = other
      · have hne : place.id ≠ id := hid ▸ hother
        simp [hid, hother]
      · simp [hid]
    · rw [List.filter_filter]
      congr 1
      funext compartment
      by_cases hid : compartment.placeId = other
      · simp [hid, hother]
      · simp [hid]

/-! ## Compartments -/

theorem createCompartment_agree (input : CreateCompartment) :
    AgreeButPlace input.placeId store (store.createCompartment id now input).2 := by
  unfold createCompartment
  split
  · refine ⟨?_, rfl⟩
    intro other hother
    refine getPlace_congr rfl ?_
    have hne : (input.placeId == other) = false := beq_false_of_ne hother.symm
    simp only [List.filter_append, List.filter_cons, hne, Bool.false_eq_true, if_false,
      List.filter_nil, List.append_nil]
  · exact .refl _ store

/-- The place that the compartment was in is the one that is altered. -/
theorem removeCompartment_agree {test : Compartment → Bool} {removed : Compartment}
    {rest : List Compartment} (h : removeFirst? test store.compartments = some (removed, rest)) :
    AgreeButPlace removed.placeId store { store with compartments := rest } := by
  refine ⟨?_, rfl⟩
  intro other hother
  exact getPlace_congr rfl (filter_removeFirst? h (beq_false_of_ne hother.symm))

/-! ## Storefronts -/

/-- The answer about a storefront depends on the storefront that is found. -/
theorem getStorefront_congr {before after : Store} {id : String}
    (h : (after.storefronts.find? fun storefront => storefront.id == id) =
      before.storefronts.find? fun storefront => storefront.id == id) :
    after.getStorefront id = before.getStorefront id := by
  rw [getStorefront, getStorefront, h]

theorem createStorefront_agree (input : CreateStorefront) :
    AgreeButStorefront id store (store.createStorefront id now input).2 := by
  refine ⟨?_, rfl, rfl⟩
  intro other hother
  exact getStorefront_congr (find?_concat (beq_false_of_ne hother.symm))

theorem updateStorefront_agree (input : UpdateStorefront) :
    AgreeButStorefront id store (store.updateStorefront now id input).2 := by
  unfold updateStorefront
  split
  · rename_i new storefronts hreplace
    refine ⟨?_, rfl, rfl⟩
    intro other hother
    refine getStorefront_congr (find?_replaceFirst? hreplace ?_)
    intro storefront hstorefront
    have hid : storefront.id = id := beq_iff_eq.mp hstorefront
    have hne : (storefront.id == other) = false := beq_false_of_ne (hid ▸ hother.symm)
    exact ⟨hne, hne⟩
  · exact .refl _ store

theorem deleteStorefront_agree : AgreeButStorefront id store (store.deleteStorefront id).2 := by
  simp only [deleteStorefront]
  split
  · exact .refl _ store
  · refine ⟨?_, rfl, rfl⟩
    intro other hother
    apply getStorefront_congr
    rw [List.find?_filter]
    congr 1
    funext storefront
    by_cases hid : storefront.id = other
    · simp [hid, hother]
    · simp [hid]

end Store

end GameShelf.Backend
