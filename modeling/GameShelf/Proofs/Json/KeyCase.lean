import GameShelf.Json.KeyCase
import GameShelf.Proofs.Json.Fields

/-!
# Respelled records

What is under a key of a record is found under the key in its other spelling, unless two keys of
the record get the same one.

* `mapKeysItems_eq_map`, `mapKeysFields_eq_map`: items and fields are respelled one by one.
* `toInternal_reread`: what was written in wire spelling, as it is read.
-/

namespace GameShelf.Json

/-- Items are respelled one by one. -/
theorem mapKeysItems_eq_map (respell : String → String) (items : List Json) :
    mapKeysItems respell items = items.map (mapKeys respell) := by
  induction items with
  | nil => rfl
  | cons item rest ih => rw [mapKeysItems, ih, List.map_cons]

/-- Fields are respelled one by one. -/
theorem mapKeysFields_eq_map (respell : String → String) (fields : Fields) :
    mapKeysFields respell fields =
      fields.map fun field => (respell field.1, mapKeys respell field.2) := by
  induction fields with
  | nil => rfl
  | cons field rest ih => rw [mapKeysFields, ih, List.map_cons]

/-- The keys of fields are respelled. -/
theorem mapKeysFields_keys (respell : String → String) (fields : Fields) :
    (mapKeysFields respell fields).map Prod.fst = (fields.map Prod.fst).map respell := by
  rw [mapKeysFields_eq_map, List.map_map, List.map_map]
  rfl

/-- Each field is found with its key respelled. -/
theorem mem_mapKeysFields (respell : String → String) {fields : Fields} {key : String}
    {value : Json} (h : (key, value) ∈ fields) :
    (respell key, mapKeys respell value) ∈ mapKeysFields respell fields := by
  rw [mapKeysFields_eq_map]
  exact List.mem_map.mpr ⟨(key, value), h, rfl⟩

/-- What is written under the keys of a record is read under the internal spellings of the keys. -/
theorem toInternal_reread {fields : Fields} {data : Json}
    (hnodup : ((fields.map Prod.fst).map toCamel).Nodup)
    (hdata : reread (recordOf fields) = some data) :
    ∃ internal, data.toInternal = .record internal ∧
      ∀ key value, (key, value) ∈ fields →
        ∃ again, reread value = some again ∧ (toCamel key, again.toInternal) ∈ internal := by
  have hkeys := List.Nodup.of_map _ hnodup
  rw [recordOf, reread] at hdata
  rcases Option.map_eq_some_iff.mp hdata with ⟨read, hread, rfl⟩
  refine ⟨_, rfl, ?_⟩
  intro key value hmem
  rcases mem_rereadFields hread ((mem_ofFields hkeys).mpr hmem) with ⟨again, hagain, hin⟩
  refine ⟨again, hagain, ?_⟩
  rw [mem_ofFields]
  · exact mem_mapKeysFields toCamel hin
  · -- the keys are those that were written, in some order
    rw [mapKeysFields_keys, rereadFields_keys hread]
    exact (((ofFields_perm hkeys).map _).map _).nodup_iff.mpr hnodup

end GameShelf.Json
