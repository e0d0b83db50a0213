import GameShelf.Intake.Places
import GameShelf.Proofs.Intake.First

/-!
# Places of a batch

The places taken in so far are found by identifier through an index beside them. The index stays
true to the places while records are taken in, and compartments that are attached later change
neither what is where nor which identifiers there are.

* `Roster.WellIndexed`: the index finds a place exactly where it stands.
* `Roster.addAll_places`: of the records with one identifier the first is taken in.
* `Place.holding`, `Roster.attach_holding`: places that hold exactly those of some compartments
  that name them, and a further compartment attached to one of them.
-/

namespace GameShelf

theorem Place.ofReported_id (raw : Reported.Place) : (Place.ofReported raw).value.id = raw.id :=
  rfl

namespace Roster

/-- The identifiers of the places of a roster. -/
def ids (roster : Roster) : List String :=
  roster.places.map Place.id

/-- The index finds a place exactly where it stands. -/
def WellIndexed (roster : Roster) : Prop :=
  ∀ id slot, roster.slot? id = some slot ↔
    ∃ place, roster.places[slot]? = some place ∧ place.id = id

theorem wellIndexed_empty : empty.WellIndexed := by
  intro id slot
  simp [empty, slot?]

/-! ## Finding places -/

/-- In a well-indexed roster a place is found with its own identifier. -/
theorem WellIndexed.find?_eq_some {roster : Roster} (h : roster.WellIndexed) {id : String}
    {slot : Nat} {place : Place} :
    roster.find? id = some (slot, place) ↔ roster.places[slot]? = some place ∧ place.id = id := by
  constructor
  · intro hfind
    rcases Option.bind_eq_some_iff.mp hfind with ⟨found, hslot, hrest⟩
    rcases Option.bind_eq_some_iff.mp hrest with ⟨other, hother, hpair⟩
    rcases Prod.mk.inj (Option.some.inj hpair) with ⟨rfl, rfl⟩
    rcases (h id found).mp hslot with ⟨stands, hstands, hid⟩
    rw [hother, Option.some.injEq] at hstands
    exact ⟨hother, hstands ▸ hid⟩
  · rintro ⟨hplace, hid⟩
    have hslot : roster.slot? id = some slot := (h id slot).mpr ⟨place, hplace, hid⟩
    simp [find?, hslot, hplace]

theorem WellIndexed.slot?_eq_none {roster : Roster} (h : roster.WellIndexed) {id : String} :
    roster.slot? id = none ↔ id ∉ roster.ids := by
  constructor
  · intro hslot hmem
    rcases List.mem_map.mp hmem with ⟨place, hplace, hid⟩
    rcases List.getElem?_of_mem hplace with ⟨slot, hget⟩
    rw [(h id slot).mpr ⟨place, hget, hid⟩] at hslot
    exact Option.some_ne_none _ hslot
  · intro hmem
    cases hslot : roster.slot? id with
    | none => rfl
    | some slot =>
      rcases (h id slot).mp hslot with ⟨place, hget, hid⟩
      exact absurd (List.mem_map.mpr ⟨place, List.mem_of_getElem? hget, hid⟩) hmem

/-- Exactly the identifiers of the places are found. -/
theorem WellIndexed.find?_of_mem {roster : Roster} (h : roster.WellIndexed) {id : String}
    (hmem : id ∈ roster.ids) :
    ∃ slot place, roster.find? id = some (slot, place) ∧ place.id = id := by
  rcases List.mem_map.mp hmem with ⟨place, hplace, hid⟩
  rcases List.getElem?_of_mem hplace with ⟨slot, hget⟩
  exact ⟨slot, place, h.find?_eq_some.mpr ⟨hget, hid⟩, hid⟩

theorem WellIndexed.find?_of_notMem {roster : Roster} (h : roster.WellIndexed) {id : String}
    (hmem : id ∉ roster.ids) : roster.find? id = none := by
  simp [find?, h.slot?_eq_none.mpr hmem]

/-- No two places of a well-indexed roster have the same identifier. -/
theorem WellIndexed.slot_unique {roster : Roster} (h : roster.WellIndexed) {i j : Nat}
    {place other : Place} (hi : roster.places[i]? = some place)
    (hj : roster.places[j]? = some other) (hid : place.id = other.id) : i = j := by
  have hslot := (h place.id i).mpr ⟨place, hi, rfl⟩
  rw [(h place.id j).mpr ⟨other, hj, hid.symm⟩] at hslot
  exact (Option.some.inj hslot).symm

/-! ## Taking in places -/

theorem add_of_mem {roster : Roster} (h : roster.WellIndexed) {raw : Reported.Place}
    (hmem : raw.id ∈ roster.ids) : roster.add raw = ⟨roster, [.duplicateLocation raw.id]⟩ := by
  unfold add
  cases hslot : roster.slot? raw.id with
  | none => exact absurd hmem (h.slot?_eq_none.mp hslot)
  | some slot => rfl

theorem add_of_notMem {roster : Roster} (h : roster.WellIndexed) {raw : Reported.Place}
    (hmem : raw.id ∉ roster.ids) :
    roster.add raw =
      ⟨{ places := roster.places ++ [(Place.ofReported raw).value]
         index := (raw.id, roster.places.length) :: roster.index },
       (Place.ofReported raw).notices⟩ := by
  unfold add
  rw [h.slot?_eq_none.mpr hmem]
  simp only [bind, pure, Noted.andThen, Noted.plain, List.append_nil]

/-- A place at the end, with its position in the index, keeps the index true. -/
theorem WellIndexed.push {roster : Roster} (h : roster.WellIndexed) {place : Place}
    (hfree : place.id ∉ roster.ids) :
    WellIndexed
      { places := roster.places ++ [place]
        index := (place.id, roster.places.length) :: roster.index } := by
  intro id slot
  have hold := h id slot
  simp only [slot?, List.lookup_cons] at hold ⊢
  by_cases hid : id = place.id
  · -- the index now finds the new place, and there was none before
    subst hid
    have hnone := h.slot?_eq_none.mpr hfree
    simp only [slot?] at hnone
    simp only [beq_self_eq_true, Option.some.injEq]
    constructor
    · rintro rfl
      exact ⟨place, List.getElem?_concat_length, rfl⟩
    · rintro ⟨other, hget, hother⟩
      by_contra hne
      rcases Nat.lt_or_gt_of_ne hne with hlt | hlt
      · rw [List.getElem?_eq_none (by simp; omega)] at hget
        exact absurd hget (by simp)
      · rw [List.getElem?_append_left hlt] at hget
        rw [hold.mpr ⟨other, hget, hother⟩] at hnone
        exact Option.some_ne_none _ hnone
  · -- any other place stands where it stood
    rw [beq_false_of_ne hid]
    simp only
    rw [hold]
    constructor
    · rintro ⟨other, hget, hother⟩
      refine ⟨other, ?_, hother⟩
      rw [List.getElem?_append_left (List.getElem?_eq_some_iff.mp hget).1]
      exact hget
    · rintro ⟨other, hget, hother⟩
      refine ⟨other, ?_, hother⟩
      rcases Nat.lt_or_ge slot roster.places.length with hlt | hge
      · rw [List.getElem?_append_left hlt] at hget
        exact hget
      · rw [List.getElem?_append_right hge] at hget
        have hlast := List.mem_singleton.mp (List.mem_of_getElem? hget)
        exact absurd (hlast ▸ hother).symm hid

/-- A further record keeps the index true. -/
theorem WellIndexed.add {roster : Roster} (h : roster.WellIndexed) (raw : Reported.Place) :
    (roster.add raw).value.WellIndexed := by
  by_cases hmem : raw.id ∈ roster.ids
  · rw [add_of_mem h hmem]
    exact h
  · rw [add_of_notMem h hmem]
    exact h.push hmem

theorem WellIndexed.addAll {roster : Roster} (h : roster.WellIndexed)
    (raws : List Reported.Place) : (roster.addAll raws).value.WellIndexed := by
  induction raws generalizing roster with
  | nil => exact h
  | cons raw rest ih => exact ih (h.add raw)

/-- The places after taking in records: those before, and the first record of each new
identifier. -/
theorem addAll_places {roster : Roster} (h : roster.WellIndexed) (raws : List Reported.Place) :
    (roster.addAll raws).value.places =
      roster.places ++
        (firstsAfter Reported.Place.id roster.ids raws).map
          fun raw => (Place.ofReported raw).value := by
  induction raws generalizing roster with
  | nil => simp [addAll, firstsAfter]
  | cons raw rest ih =>
    have hrest := ih (h.add raw)
    simp only [addAll, Noted.value_bind, firstsAfter]
    rw [hrest]
    by_cases hmem : raw.id ∈ roster.ids
    · rw [add_of_mem h hmem, if_pos hmem]
    · rw [add_of_notMem h hmem, if_neg hmem]
      have hids : ∀ k, k ∈ raw.id :: roster.ids ↔ k ∈ roster.ids ++ [raw.id] := by
        intro k
        rw [List.mem_append, List.mem_singleton, List.mem_cons, or_comm]
      rw [firstsAfter_congr Reported.Place.id rest hids]
      simp [ids, Place.ofReported_id]

/-- Without places before, the places are the first records. -/
theorem empty_addAll_places (raws : List Reported.Place) :
    (empty.addAll raws).value.places =
      (firstsAfter Reported.Place.id [] raws).map fun raw => (Place.ofReported raw).value := by
  rw [addAll_places wellIndexed_empty]
  simp [empty, ids]

end Roster

/-! ## Places with their compartments -/

/-- A place that holds exactly those of some compartments that name it. -/
def Place.holding (compartments : List Compartment) (place : Place) : Place :=
  { place with compartments := compartments.filter fun c => c.placeId == place.id }

namespace Roster

/-- The same roster with every place holding its compartments. -/
def holding (compartments : List Compartment) (roster : Roster) : Roster :=
  { roster with places := roster.places.map (Place.holding compartments) }

theorem holding_slot? (compartments : List Compartment) (roster : Roster) (id : String) :
    (roster.holding compartments).slot? id = roster.slot? id := rfl

theorem holding_find? (compartments : List Compartment) (roster : Roster) (id : String) :
    (roster.holding compartments).find? id =
      (roster.find? id).map fun found => (found.1, found.2.holding compartments) := by
  simp only [find?, holding_slot?]
  cases roster.slot? id with
  | none => rfl
  | some slot =>
    simp only [holding, List.getElem?_map]
    cases hplace : roster.places[slot]? with
    | none => simp [hplace]
    | some place => simp [hplace]

/-- A compartment put into the place that it names is held by that place and by no other. -/
theorem attach_holding {roster : Roster} (h : roster.WellIndexed) {slot : Nat} {place : Place}
    (hplace : roster.places[slot]? = some place) (compartments : List Compartment)
    {compartment : Compartment} (hid : compartment.placeId = place.id) :
    (roster.holding compartments).attach slot compartment =
      roster.holding (compartments ++ [compartment]) := by
  simp only [attach, holding, Roster.mk.injEq, and_true]
  apply List.ext_getElem?
  intro i
  rw [List.getElem?_modify, List.getElem?_map, List.getElem?_map]
  cases hi : roster.places[i]? with
  | none => rfl
  | some other =>
    simp only [Option.map_some]
    by_cases hslot : slot = i
    · subst hslot
      rw [hplace, Option.some.injEq] at hi
      subst hi
      simp [Place.holding, List.filter_append, hid]
    · -- no other place has the identifier
      have hne : compartment.placeId ≠ other.id := by
        intro heq
        exact hslot (h.slot_unique hplace hi (hid.symm.trans heq))
      simp [hslot, Place.holding, List.filter_append, hne]

end Roster

end GameShelf
