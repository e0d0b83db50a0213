import Mathlib.Data.List.Dedup
import Mathlib.Data.List.Perm.Basic

/-!
# Members by key

Of several records with the same identifier the first one counts. A list splits into the members
whose key comes up for the first time and those whose key was met before.

* `firstsAfter`: the members with a new key, given the keys that were met before the list.
* `latersAfter`: the other members.
* `firstsAfter_eq_self`, `latersAfter_eq_nil`: where keys are different, all members are first ones.
* `mem_firstsAfter_iff`: a member is among the first ones exactly if no member before it has
  its key.
* `find?_key_eq_some_iff`: so the first one of a key is what a search for the key finds.
* `filter_key_eq_singleton`: where keys are different, each is that of one member.
* `perm_flatMap_filter`: grouping a list by its keys only reorders it.
-/

namespace GameShelf

variable {α κ : Type} [DecidableEq κ]

/-- The members of a list whose key comes up for the first time. -/
def firstsAfter (key : α → κ) (met : List κ) : List α → List α
  | [] => []
  | a :: rest =>
    if key a ∈ met then firstsAfter key met rest
    else a :: firstsAfter key (key a :: met) rest

/-- The members of a list whose key was met before. -/
def latersAfter (key : α → κ) (met : List κ) : List α → List α
  | [] => []
  | a :: rest =>
    if key a ∈ met then a :: latersAfter key met rest
    else latersAfter key (key a :: met) rest

/-- Only membership in the keys met before matters. -/
theorem firstsAfter_congr (key : α → κ) {met met' : List κ} (list : List α)
    (h : ∀ k, k ∈ met ↔ k ∈ met') : firstsAfter key met list = firstsAfter key met' list := by
  induction list generalizing met met' with
  | nil => rfl
  | cons a rest ih =>
    simp only [firstsAfter, h (key a)]
    split
    · exact ih h
    · have hmet : ∀ k, k ∈ key a :: met ↔ k ∈ key a :: met' := by
        intro k
        simp [h k]
      rw [ih hmet]

theorem latersAfter_congr (key : α → κ) {met met' : List κ} (list : List α)
    (h : ∀ k, k ∈ met ↔ k ∈ met') : latersAfter key met list = latersAfter key met' list := by
  induction list generalizing met met' with
  | nil => rfl
  | cons a rest ih =>
    simp only [latersAfter, h (key a)]
    split
    · rw [ih h]
    · apply ih
      intro k
      simp [h k]

theorem firstsAfter_sublist (key : α → κ) (met : List κ) (list : List α) :
    (firstsAfter key met list).Sublist list := by
  induction list generalizing met with
  | nil => exact List.Sublist.refl _
  | cons a rest ih =>
    simp only [firstsAfter]
    split
    · exact (ih met).cons a
    · exact (ih (key a :: met)).cons_cons a

theorem latersAfter_sublist (key : α → κ) (met : List κ) (list : List α) :
    (latersAfter key met list).Sublist list := by
  induction list generalizing met with
  | nil => exact List.Sublist.refl _
  | cons a rest ih =>
    simp only [latersAfter]
    split
    · exact (ih met).cons_cons a
    · exact (ih (key a :: met)).cons a

theorem key_notMem_met {key : α → κ} {met : List κ} {list : List α} {a : α}
    (h : a ∈ firstsAfter key met list) : key a ∉ met := by
  induction list generalizing met with
  | nil => simp [firstsAfter] at h
  | cons b rest ih =>
    simp only [firstsAfter] at h
    split at h
    · exact ih h
    · rename_i hb
      rcases List.mem_cons.mp h with rfl | h
      · exact hb
      · have := ih h
        simp only [List.mem_cons, not_or] at this
        exact this.2

/-- First members have distinct keys. -/
theorem nodup_firstsAfter (key : α → κ) (met : List κ) (list : List α) :
    ((firstsAfter key met list).map key).Nodup := by
  induction list generalizing met with
  | nil => exact List.nodup_nil
  | cons a rest ih =>
    simp only [firstsAfter]
    split
    · exact ih met
    · rw [List.map_cons, List.nodup_cons]
      refine ⟨?_, ih _⟩
      intro h
      rcases List.mem_map.mp h with ⟨b, hb, hkey⟩
      have := key_notMem_met hb
      simp [hkey] at this

/-- A member is among the first ones exactly if it stands somewhere in the list with no member
of its key, met or in the list, before it. -/
theorem mem_firstsAfter_iff {key : α → κ} {met : List κ} {list : List α} {a : α} :
    a ∈ firstsAfter key met list ↔
      key a ∉ met ∧ ∃ before after, list = before ++ a :: after ∧ key a ∉ before.map key := by
  induction list generalizing met with
  | nil => simp [firstsAfter]
  | cons b rest ih =>
    simp only [firstsAfter]
    constructor
    · intro h
      split at h
      · rename_i hb
        rcases ih.mp h with ⟨hmet, before, after, rfl, hbefore⟩
        refine ⟨hmet, b :: before, after, rfl, ?_⟩
        rw [List.map_cons, List.mem_cons, not_or]
        exact ⟨fun heq => hmet (heq ▸ hb), hbefore⟩
      · rename_i hb
        rcases List.mem_cons.mp h with rfl | h
        · exact ⟨hb, [], rest, rfl, List.not_mem_nil⟩
        · rcases ih.mp h with ⟨hmet, before, after, rfl, hbefore⟩
          rw [List.mem_cons, not_or] at hmet
          refine ⟨hmet.2, b :: before, after, rfl, ?_⟩
          rw [List.map_cons, List.mem_cons, not_or]
          exact ⟨hmet.1, hbefore⟩
    · rintro ⟨hmet, before, after, hlist, hbefore⟩
      cases before with
      | nil =>
        rcases List.cons.inj hlist with ⟨rfl, rfl⟩
        rw [if_neg hmet]
        exact List.mem_cons_self
      | cons c before =>
        rcases List.cons.inj hlist with ⟨rfl, rfl⟩
        rw [List.map_cons, List.mem_cons, not_or] at hbefore
        split
        · exact ih.mpr ⟨hmet, before, after, rfl, hbefore.2⟩
        · refine List.mem_cons_of_mem _ (ih.mpr ⟨?_, before, after, rfl, hbefore.2⟩)
          rw [List.mem_cons, not_or]
          exact ⟨hbefore.1, hmet⟩

/-- What a search for a key finds is the first member of that key. -/
theorem find?_key_eq_some_iff {key : α → κ} {list : List α} {k : κ} {a : α} :
    (list.find? fun b => key b == k) = some a ↔ a ∈ firstsAfter key [] list ∧ key a = k := by
  rw [List.find?_eq_some_iff_append, mem_firstsAfter_iff, beq_iff_eq]
  constructor
  · rintro ⟨hkey, before, after, hlist, hbefore⟩
    refine ⟨⟨List.not_mem_nil, before, after, hlist, ?_⟩, hkey⟩
    intro hmem
    rcases List.mem_map.mp hmem with ⟨b, hb, hsame⟩
    have hother := hbefore b hb
    rw [hsame, hkey, beq_self_eq_true] at hother
    exact absurd hother Bool.false_ne_true
  · rintro ⟨⟨-, before, after, hlist, hbefore⟩, hkey⟩
    refine ⟨hkey, before, after, hlist, ?_⟩
    intro b hb
    have hne : key b ≠ k := by
      intro hsame
      exact hbefore (List.mem_map.mpr ⟨b, hb, hsame.trans hkey.symm⟩)
    rw [beq_false_of_ne hne]
    rfl

/-- Of every key in a list a first member is there, unless the key was met before. -/
theorem exists_mem_firstsAfter {key : α → κ} {met : List κ} {list : List α} {k : κ}
    (hmet : k ∉ met) (hlist : k ∈ list.map key) :
    ∃ a ∈ firstsAfter key met list, key a = k := by
  induction list generalizing met with
  | nil => simp at hlist
  | cons b rest ih =>
    simp only [firstsAfter]
    by_cases hb : key b = k
    · rw [if_neg (hb ▸ hmet)]
      exact ⟨b, List.mem_cons_self, hb⟩
    · have hrest : k ∈ rest.map key := by
        rcases List.mem_cons.mp hlist with h | h
        · exact absurd h.symm hb
        · exact h
      split
      · exact ih hmet hrest
      · have hmet' : k ∉ key b :: met := by
          rw [List.mem_cons, not_or]
          exact ⟨fun h => hb h.symm, hmet⟩
        rcases ih hmet' hrest with ⟨a, ha, hk⟩
        exact ⟨a, List.mem_cons_of_mem _ ha, hk⟩

/-- When further keys were met before, their members drop out of the first ones. -/
theorem firstsAfter_append (key : α → κ) (held met : List κ) (list : List α) :
    firstsAfter key (held ++ met) list =
      (firstsAfter key met list).filter fun a => key a ∉ held := by
  induction list generalizing met with
  | nil => rfl
  | cons a rest ih =>
    -- whether a key counts as met on the left or on the right, it is met
    have hmove : firstsAfter key (key a :: (held ++ met)) rest =
        firstsAfter key (held ++ key a :: met) rest := by
      apply firstsAfter_congr
      intro k
      simp only [List.mem_cons, List.mem_append]
      exact or_left_comm
    have hkeep (h : key a ∈ held) :
        firstsAfter key (held ++ met) rest = firstsAfter key (held ++ key a :: met) rest := by
      apply firstsAfter_congr
      intro k
      simp only [List.mem_cons, List.mem_append]
      constructor
      · exact fun hk => hk.imp_right .inr
      · rintro (hk | rfl | hk)
        · exact .inl hk
        · exact .inl h
        · exact .inr hk
    by_cases hmet : key a ∈ met
    · rw [firstsAfter, firstsAfter, if_pos (List.mem_append_right held hmet), if_pos hmet, ih]
    · by_cases hheld : key a ∈ held
      · rw [firstsAfter, firstsAfter, if_pos (List.mem_append_left met hheld), if_neg hmet,
          hkeep hheld, ih, List.filter_cons_of_neg (by simpa using hheld)]
      · rw [firstsAfter, firstsAfter, if_neg (by simp [hmet, hheld]), if_neg hmet, hmove, ih,
          List.filter_cons_of_pos (by simpa using hheld)]

/-- The key of a member may be looked at before the member is made. -/
theorem firstsAfter_map {β : Type} (key : α → κ) (make : β → α) (met : List κ) (list : List β) :
    firstsAfter key met (list.map make) =
      (firstsAfter (fun b => key (make b)) met list).map make := by
  induction list generalizing met with
  | nil => rfl
  | cons b rest ih =>
    simp only [List.map_cons, firstsAfter]
    split
    · exact ih met
    · rw [List.map_cons, ih]

section

variable {key : α → κ} {met : List κ} {list : List α}

omit [DecidableEq κ] in
theorem nodup_map_cons {a : α} (h : ((a :: list).map key).Nodup)
    (hmet : ∀ b ∈ a :: list, key b ∉ met) :
    (list.map key).Nodup ∧ ∀ b ∈ list, key b ∉ key a :: met := by
  rw [List.map_cons, List.nodup_cons] at h
  refine ⟨h.2, fun b hb => ?_⟩
  rw [List.mem_cons, not_or]
  exact ⟨fun heq => h.1 (heq ▸ List.mem_map_of_mem hb), hmet b (List.mem_cons_of_mem a hb)⟩

/-- Where keys are different and were not met before, all members are first ones. -/
theorem firstsAfter_eq_self (h : (list.map key).Nodup) (hmet : ∀ a ∈ list, key a ∉ met) :
    firstsAfter key met list = list := by
  induction list generalizing met with
  | nil => rfl
  | cons a rest ih =>
    rcases nodup_map_cons h hmet with ⟨hrest, hothers⟩
    rw [firstsAfter, if_neg (hmet a List.mem_cons_self), ih hrest hothers]

theorem latersAfter_eq_nil (h : (list.map key).Nodup) (hmet : ∀ a ∈ list, key a ∉ met) :
    latersAfter key met list = [] := by
  induction list generalizing met with
  | nil => rfl
  | cons a rest ih =>
    rcases nodup_map_cons h hmet with ⟨hrest, hothers⟩
    rw [latersAfter, if_neg (hmet a List.mem_cons_self), ih hrest hothers]

end

/-- There are as many first members as different keys. -/
theorem length_firstsAfter (key : α → κ) (list : List α) :
    (firstsAfter key [] list).length = (list.map key).dedup.length := by
  have hperm : ((firstsAfter key [] list).map key).Perm (list.map key).dedup := by
    rw [List.perm_ext_iff_of_nodup (nodup_firstsAfter key [] list) (List.nodup_dedup _)]
    intro k
    rw [List.mem_dedup]
    constructor
    · intro h
      rcases List.mem_map.mp h with ⟨a, ha, rfl⟩
      exact List.mem_map_of_mem ((firstsAfter_sublist key [] list).subset ha)
    · intro h
      rcases exists_mem_firstsAfter List.not_mem_nil h with ⟨a, ha, rfl⟩
      exact List.mem_map_of_mem ha
  rw [← hperm.length_eq, List.length_map]

/-- Among members with different keys a member is found alone by its key. -/
theorem filter_key_eq_singleton (key : α → κ) {list : List α}
    (hnodup : (list.map key).Nodup) {a : α} (hmem : a ∈ list) :
    (list.filter fun other => key other == key a) = [a] := by
  induction list with
  | nil => exact absurd hmem List.not_mem_nil
  | cons head rest ih =>
    rw [List.map_cons, List.nodup_cons] at hnodup
    rcases hnodup with ⟨hhead, hrest⟩
    rcases List.mem_cons.mp hmem with rfl | hmem
    · -- nobody else has the key of the head
      have hnone : (rest.filter fun other => key other == key a) = [] := by
        rw [List.filter_eq_nil_iff]
        intro other hother heq
        have hkey : key other = key a := beq_iff_eq.mp heq
        exact hhead (hkey ▸ List.mem_map_of_mem hother)
      rw [List.filter_cons, beq_self_eq_true, if_pos rfl, hnone]
    · have hne : key head ≠ key a := by
        intro heq
        exact hhead (heq ▸ List.mem_map_of_mem hmem)
      rw [List.filter_cons, beq_false_of_ne hne, ih hrest hmem]
      rfl

/-- Grouped by distinct keys that cover it, a list is only reordered. -/
theorem perm_flatMap_filter (key : α → κ) {keys : List κ}
    (hkeys : keys.Nodup) {list : List α} (hcover : ∀ a ∈ list, key a ∈ keys) :
    (keys.flatMap fun k => list.filter fun a => key a == k).Perm list := by
  induction keys generalizing list with
  | nil =>
    have hempty : list = [] := List.eq_nil_iff_forall_not_mem.mpr fun a ha => by
      simpa using hcover a ha
    subst hempty
    exact List.Perm.refl _
  | cons k rest ih =>
    rcases List.nodup_cons.mp hkeys with ⟨hk, hrest⟩
    -- the other keys see only the members without the first one
    have hothers : (rest.flatMap fun k' => list.filter fun a => key a == k') =
        rest.flatMap fun k' =>
          (list.filter fun a => !(key a == k)).filter fun a => key a == k' := by
      apply List.flatMap_congr
      intro k' hk'
      rw [List.filter_filter]
      apply List.filter_congr
      intro a _
      by_cases heq : key a = k'
      · have hne : k' ≠ k := fun h => hk (h ▸ hk')
        simp [heq, hne]
      · simp [heq]
    have hleft : ∀ a ∈ list.filter fun a => !(key a == k), key a ∈ rest := by
      intro a ha
      rcases List.mem_filter.mp ha with ⟨hmem, hne⟩
      rcases List.mem_cons.mp (hcover a hmem) with h | h
      · simp [h] at hne
      · exact h
    rw [List.flatMap_cons, hothers]
    exact (List.Perm.append_left _ (ih hrest hleft)).trans (List.filter_append_perm _ list)

end GameShelf
