import Mathlib
import GameShelf.Proofs.Json.RoundTrip
import GameShelf.Proofs.Text.Utf8

/-!
# What respelling keeps

Where keys of a record get the same spelling, all but one of their fields are lost: the one with the
greatest key, byte by byte, prevails. Nothing else is lost or added, at any depth.

* `mem_keys_ofFields`, `length_ofFields`: every key stays, with one field.
* `Prevails`: keys before which the others of their spelling give way.
* `Respelled`: what a value is in another spelling, said of lists and records one by one.
* `respelled_mapKeys`, `Respelled.unique`: there is one such value, which respelling gives.
* `respelled_iff_eq`: that in both directions.
-/

namespace GameShelf.Json

/-! ## The fields that stay -/

theorem exists_isLast {fields : Fields} {key : String} (h : key ∈ fields.map Prod.fst) :
    ∃ value, IsLast (key, value) fields := by
  induction fields with
  | nil => exact absurd h List.not_mem_nil
  | cons first rest ih =>
    by_cases hrest : key ∈ rest.map Prod.fst
    · rcases ih hrest with ⟨value, hlast⟩
      exact ⟨value, isLast_cons.mpr (.inl hlast)⟩
    · rcases List.mem_cons.mp h with rfl | hmem
      · exact ⟨first.2, isLast_cons.mpr (.inr ⟨rfl, hrest⟩)⟩
      · exact absurd hmem hrest

/-- A record has the keys of its fields. -/
theorem mem_keys_ofFields {fields : Fields} {key : String} :
    key ∈ (ofFields fields).map Prod.fst ↔ key ∈ fields.map Prod.fst := by
  constructor
  · rintro hmem
    rcases List.mem_map.mp hmem with ⟨field, hfield, rfl⟩
    exact List.mem_map_of_mem (mem_of_mem_ofFields hfield)
  · intro hmem
    rcases exists_isLast hmem with ⟨value, hlast⟩
    exact List.mem_map_of_mem (mem_ofFields_iff.mpr hlast)

/-- A record has as many fields as there are keys. -/
theorem length_ofFields (fields : Fields) :
    (ofFields fields).length = (fields.map Prod.fst).toFinset.card := by
  have hkeys : ((ofFields fields).map Prod.fst).toFinset = (fields.map Prod.fst).toFinset := by
    ext key
    rw [List.mem_toFinset, List.mem_toFinset, mem_keys_ofFields]
  rw [← hkeys, List.toFinset_card_of_nodup (keys_nodup_of_keysAscend (keysAscend_ofFields fields)),
    List.length_map]

/-- Sorted fields are the same if they have the same members. -/
theorem eq_of_mem_iff {fields others : Fields} (h : KeysAscend fields) (hothers : KeysAscend others)
    (hmem : ∀ field, field ∈ fields ↔ field ∈ others) : fields = others := by
  have hperm : fields.Perm others :=
    (List.perm_ext_iff_of_nodup (List.Nodup.of_map _ (keys_nodup_of_keysAscend h))
      (List.Nodup.of_map _ (keys_nodup_of_keysAscend hothers))).mpr hmem
  rw [← ofFields_of_keysAscend h, ofFields_of_perm hperm hothers]

/-! ## Keys of one spelling -/

section

variable (respell : String → String)

/-- No other key of its spelling is greater, byte by byte. -/
def Prevails (fields : Fields) (key : String) : Prop :=
  ∀ other ∈ fields.map Prod.fst, respell other = respell key → ¬ Text.utf8 key < Text.utf8 other

/-- A value in another spelling. -/
inductive Respelled : Json → Json → Prop where
  | null : Respelled .null .null
  | flag (value : Bool) : Respelled (.flag value) (.flag value)
  | number (value : JsonNumber) : Respelled (.number value) (.number value)
  | text (value : String) : Respelled (.text value) (.text value)
  /-- Items stay in order, each in its other spelling. -/
  | list {items others : List Json} (h : List.Forall₂ Respelled items others) :
      Respelled (.list items) (.list others)
  /-- A record has the other spellings as its keys, and under each of them what was under the key
  that prevails. It is smaller if and only if two of its keys are spelled alike. -/
  | record {fields others : Fields} (ascend : KeysAscend others)
      (keys : ∀ key, key ∈ others.map Prod.fst ↔
        ∃ original ∈ fields.map Prod.fst, respell original = key)
      (values : ∀ original ∈ fields, Prevails respell fields original.1 →
        ∀ other ∈ others, other.1 = respell original.1 → Respelled original.2 other.2)
      (smaller : others.length < fields.length ↔
        ∃ one ∈ fields.map Prod.fst, ∃ other ∈ fields.map Prod.fst,
          one ≠ other ∧ respell one = respell other) :
      Respelled (.record fields) (.record others)

variable {respell}

/-- Among the keys of one spelling there is one that prevails. -/
theorem exists_prevails {fields : Fields} {key : String} (h : key ∈ fields.map Prod.fst) :
    ∃ winner ∈ fields, respell winner.1 = respell key ∧ Prevails respell fields winner.1 := by
  let rivals := (fields.map Prod.fst).toFinset.filter fun other => respell other = respell key
  have hmem : ∀ other, other ∈ rivals ↔
      other ∈ fields.map Prod.fst ∧ respell other = respell key := fun other => by
    rw [Finset.mem_filter, List.mem_toFinset]
  rcases rivals.exists_max_image id ⟨key, (hmem key).mpr ⟨h, rfl⟩⟩ with ⟨greatest, hin, hmax⟩
  rcases (hmem greatest).mp hin with ⟨hkey, hspelled⟩
  rcases List.mem_map.mp hkey with ⟨winner, hwinner, rfl⟩
  refine ⟨winner, hwinner, hspelled, fun other hother halike => ?_⟩
  rw [Text.utf8_lt_utf8, not_lt]
  exact hmax other ((hmem other).mpr ⟨hother, halike.trans hspelled⟩)

/-- Of sorted fields with one spelling, the last has the key that prevails. -/
theorem eq_of_prevails {fields : Fields} (h : KeysAscend fields) {original : String × Json}
    (hmem : original ∈ fields) (hprevails : Prevails respell fields original.1)
    {other : String × Json} (hlast : IsLast other (mapKeysFields respell fields))
    (hkey : other.1 = respell original.1) :
    other = (respell original.1, mapKeys respell original.2) := by
  rcases hlast with ⟨before, after, hsplit, hafter⟩
  rw [mapKeysFields_eq_map] at hsplit
  rcases List.map_eq_append_iff.mp hsplit with ⟨earlier, rest, rfl, -, hrest⟩
  rcases List.map_eq_cons_iff.mp hrest with ⟨last, later, rfl, rfl, rfl⟩
  have hnotGreater : ¬ original.1 < last.1 := by
    rw [← Text.utf8_lt_utf8]
    exact hprevails last.1 (List.mem_map_of_mem (by simp)) hkey
  rw [KeysAscend, List.pairwise_map, List.pairwise_append] at h
  rcases List.mem_append.mp hmem with hearlier | hmem
  · exact absurd (h.2.2 original hearlier last List.mem_cons_self) hnotGreater
  · rcases List.mem_cons.mp hmem with rfl | hlater
    · rfl
    · -- no later key has the spelling
      refine absurd ?_ hafter
      rw [hkey, List.map_map]
      exact List.mem_map_of_mem hlater

/-- Respelled fields are fewer exactly if two keys are spelled alike. -/
theorem length_respelled_lt {fields : Fields} (h : KeysAscend fields) :
    (ofFields (mapKeysFields respell fields)).length < fields.length ↔
      ∃ one ∈ fields.map Prod.fst, ∃ other ∈ fields.map Prod.fst,
        one ≠ other ∧ respell one = respell other := by
  have hlength : fields.length = (fields.map Prod.fst).toFinset.card := by
    rw [List.toFinset_card_of_nodup (keys_nodup_of_keysAscend h), List.length_map]
  have himage : ((mapKeysFields respell fields).map Prod.fst).toFinset =
      (fields.map Prod.fst).toFinset.image respell := by
    ext key
    rw [mapKeysFields_keys, List.mem_toFinset, List.mem_map, Finset.mem_image]
    simp only [List.mem_toFinset]
  rw [length_ofFields, himage, hlength, Finset.card_image_le.lt_iff_ne, ne_eq,
    Finset.card_image_iff, Set.InjOn]
  simp only [List.coe_toFinset, Set.mem_ofPred_eq]
  push Not
  constructor
  · rintro ⟨one, hone, other, hother, hspelled, hne⟩
    exact ⟨one, hone, other, hother, hne, hspelled⟩
  · rintro ⟨one, hone, other, hother, hne, hspelled⟩
    exact ⟨one, hone, other, hother, hspelled, hne⟩

/-! ## Values -/

/-- Respelling gives the value in the other spelling. -/
theorem respelled_mapKeys {value : Json} (h : value.IsSorted) :
    Respelled respell value (mapKeys respell value) := by
  induction value using inductionOn with
  | null => exact .null
  | flag value => exact .flag value
  | number value => exact .number value
  | text value => exact .text value
  | list items ih =>
    rw [IsSorted, allSorted_iff] at h
    rw [mapKeys, mapKeysItems_eq_map]
    refine .list (List.forall₂_map_right_iff.mpr (List.forall₂_same.mpr ?_))
    exact fun item hitem => ih item hitem (h item hitem)
  | record fields ih =>
    rw [IsSorted, fieldsSorted_iff] at h
    rw [mapKeys]
    refine .record (keysAscend_ofFields _) ?keys ?values (length_respelled_lt h.1)
    case keys =>
      intro key
      rw [mem_keys_ofFields, mapKeysFields_keys, List.mem_map]
    case values =>
      intro original hmem hprevails other hother hkey
      rw [eq_of_prevails h.1 hmem hprevails (mem_ofFields_iff.mp hother) hkey]
      exact ih original hmem (h.2 original hmem)

theorem forall₂_unique {relation : Json → Json → Prop} {items one other : List Json}
    (h : ∀ item ∈ items, ∀ {a b}, relation item a → relation item b → a = b)
    (hone : List.Forall₂ relation items one) (hother : List.Forall₂ relation items other) :
    one = other := by
  induction hone generalizing other with
  | nil =>
    cases hother
    rfl
  | cons hfirst hrest ih =>
    cases hother with
    | cons hfirst' hrest' =>
      rw [h _ List.mem_cons_self hfirst hfirst',
        ih (fun item hmem => h item (List.mem_cons_of_mem _ hmem)) hrest']

theorem Respelled.exists_record {fields : Fields} {other : Json}
    (h : Respelled respell (.record fields) other) :
    ∃ others, other = .record others ∧ KeysAscend others := by
  cases h with
  | record ascend _ _ _ => exact ⟨_, rfl, ascend⟩

/-- There is no second value in the other spelling. By induction on the value: under each key of a
record stands the value of one original field, the one that prevails. -/
theorem Respelled.unique {value one other : Json} (hone : Respelled respell value one)
    (hother : Respelled respell value other) : one = other := by
  induction value using inductionOn generalizing one other with
  | null | flag _ | number _ | text _ =>
    cases hone
    cases hother
    rfl
  | list items ih =>
    cases hone with
    | list hone =>
    cases hother with
    | list hother => rw [forall₂_unique ih hone hother]
  | record fields ih =>
    have hsub : ∀ {one other : Fields}, Respelled respell (.record fields) (.record one) →
        Respelled respell (.record fields) (.record other) → ∀ field ∈ one, field ∈ other := by
      intro one other hone hother field hfield
      cases hone with
      | record _ keys values _ =>
      cases hother with
      | record _ keys' values' _ =>
        rcases (keys field.1).mp (List.mem_map_of_mem hfield) with ⟨key, hkey, hspelled⟩
        rcases exists_prevails hkey with ⟨winner, hwinner, halike, hprevails⟩
        have hspelling : field.1 = respell winner.1 := hspelled.symm.trans halike.symm
        rcases List.mem_map.mp ((keys' field.1).mpr ⟨key, hkey, hspelled⟩) with
          ⟨found, hfound, hsame⟩
        have hvalue : field.2 = found.2 :=
          ih winner hwinner (values winner hwinner hprevails field hfield hspelling)
            (values' winner hwinner hprevails found hfound (hsame.trans hspelling))
        rw [Prod.ext hsame.symm hvalue]
        exact hfound
    rcases hone.exists_record with ⟨one, rfl, hascend⟩
    rcases hother.exists_record with ⟨other, rfl, hascend'⟩
    rw [eq_of_mem_iff hascend hascend' fun field =>
      ⟨hsub hone hother field, hsub hother hone field⟩]

theorem respelled_iff {value result : Json} (h : value.IsSorted) :
    Respelled respell value result ↔ result = mapKeys respell value := by
  constructor
  · intro hresult
    exact hresult.unique (respelled_mapKeys h)
  · rintro rfl
    exact respelled_mapKeys h

end

/-- A value with sorted records, as all are that were read, has one internal spelling and one wire
spelling, which are what it is respelled as. -/
theorem respelled_iff_eq {value : Json} (h : value.IsSorted) (result : Json) :
    (Respelled toCamel value result ↔ result = value.toInternal) ∧
      (Respelled toSnake value result ↔ result = value.toWire) :=
  ⟨respelled_iff h, respelled_iff h⟩

/-- In a record inside of a list, two keys get the same spelling in either direction. -/
theorem crowdedRecord_respelled :
    let value := Json.record [("games", .list [.record [("aB", .nat 1), ("a_b", .nat 2)], .null])]
    value.IsSorted ∧
      value.toInternal = .record [("games", .list [.record [("aB", .nat 2)], .null])] ∧
      value.toWire = .record [("games", .list [.record [("a_b", .nat 2)], .null])] ∧
      ∀ result, (Respelled toCamel value result ↔ result = value.toInternal) ∧
        (Respelled toSnake value result ↔ result = value.toWire) := by
  intro value
  have hsorted : value.IsSorted := by
    have hkeys : "aB" < "a_b" := by decide
    simp only [value, IsSorted, AllSorted, FieldsSorted, KeysAscend, Json.nat, List.map_cons,
      List.map_nil, List.pairwise_cons, List.Pairwise.nil, List.mem_singleton, forall_eq, hkeys,
      List.not_mem_nil, false_implies, implies_true, and_self]
  refine ⟨hsorted, ?_, ?_, respelled_iff_eq hsorted⟩
  · rfl
  · rfl

end GameShelf.Json
