import Mathlib
import GameShelf.Proofs.Json.KeyCase

/-!
# There and back through the wire spelling

A value in wire spelling is respelled as the value it was, and that holds of exactly those values in
which no key has an ASCII lower-case letter right after an underscore. Such a letter would come back
in upper case. All other keys come back as they were, so that no two of them share a wire spelling
and no field of a record is lost.

* `Marked`: texts with a lower-case letter right after an underscore.
* `toCamel_toSnake`: one key.
* `Json.EveryKey`: what holds of the keys of a value at every depth.
* `Json.mapKeys_mapKeys`: keys that come back one by one come back throughout a value.
* `Json.toInternal_toWire`: whole values.
-/

namespace GameShelf

/-! ## Texts -/

/-- Somewhere in the text, an ASCII lower-case letter comes right after an underscore. -/
def Marked (cs : List Char) : Prop :=
  ∃ letter : Char, letter.isLower = true ∧ ['_', letter] <:+: cs

/-- The text begins with an underscore and a lower-case letter. -/
def BeginsMarked (cs : List Char) : Prop :=
  ∃ letter : Char, letter.isLower = true ∧ ['_', letter] <+: cs

theorem not_marked_nil : ¬ Marked [] := by
  rintro ⟨letter, -, hinfix⟩
  exact absurd (List.infix_nil.mp hinfix) (List.cons_ne_nil _ _)

theorem marked_cons {c : Char} {rest : List Char} :
    Marked (c :: rest) ↔ BeginsMarked (c :: rest) ∨ Marked rest := by
  simp only [Marked, BeginsMarked, List.infix_cons_iff, and_or_left, exists_or]

theorem not_beginsMarked_singleton (c : Char) : ¬ BeginsMarked [c] := by
  simp [BeginsMarked]

theorem beginsMarked_cons_cons {c next : Char} {rest : List Char} :
    BeginsMarked (c :: next :: rest) ↔ c = '_' ∧ next.isLower = true := by
  constructor
  · rintro ⟨letter, hlower, hprefix⟩
    rcases List.cons_prefix_cons.mp hprefix with ⟨hunderscore, hprefix⟩
    rcases List.cons_prefix_cons.mp hprefix with ⟨rfl, -⟩
    exact ⟨hunderscore.symm, hlower⟩
  · rintro ⟨rfl, hlower⟩
    exact ⟨next, hlower, rest, rfl⟩

/-! ## The two scans -/

/-- Where nothing is to be replaced, a character stays. -/
theorem camelChars_cons {c : Char} {rest : List Char} (h : ¬ BeginsMarked (c :: rest)) :
    camelChars (c :: rest) = c :: camelChars rest := by
  cases rest with
  | nil => rfl
  | cons next rest =>
    rw [beginsMarked_cons_cons] at h
    rw [camelChars, if_neg h]

theorem snakeChars_cons_of_isUpper {c : Char} (h : c.isUpper = true) (rest : List Char) :
    snakeChars (c :: rest) = '_' :: c.toLower :: snakeChars rest := by
  rw [snakeChars, List.flatMap_cons, if_pos h]
  rfl

theorem snakeChars_cons_of_not_isUpper {c : Char} (h : ¬ c.isUpper = true) (rest : List Char) :
    snakeChars (c :: rest) = c :: snakeChars rest := by
  rw [snakeChars, List.flatMap_cons, if_neg h]
  rfl

/-- What follows a character in the wire spelling is no lower-case letter that was not there, since
the letters that were in upper case stand behind underscores. -/
theorem not_beginsMarked_cons_snakeChars {c : Char} {rest : List Char}
    (h : ¬ BeginsMarked (c :: rest)) : ¬ BeginsMarked (c :: snakeChars rest) := by
  cases rest with
  | nil => exact h
  | cons next rest =>
    by_cases hupper : next.isUpper = true
    · rw [snakeChars_cons_of_isUpper hupper, beginsMarked_cons_cons]
      rintro ⟨-, hlower⟩
      exact absurd hlower (by decide)
    · rw [snakeChars_cons_of_not_isUpper hupper, beginsMarked_cons_cons]
      rw [beginsMarked_cons_cons] at h
      exact h

/-- The internal spelling of the wire spelling. By induction on the text: a letter in upper case is
read back from its mark, and no other character is taken for one. -/
theorem camelChars_snakeChars {cs : List Char} (h : ¬ Marked cs) :
    camelChars (snakeChars cs) = cs := by
  induction cs with
  | nil => rfl
  | cons c rest ih =>
    rw [marked_cons, not_or] at h
    have hrest := ih h.2
    by_cases hupper : c.isUpper = true
    · have hlower : c.toLower.isLower = true := by
        rw [Char.isLower_toLower_eq_isAlpha, Char.isAlpha, hupper, Bool.true_or]
      have hback : c.toLower.toUpper = c := by
        rw [Char.toUpper_toLower_eq_toUpper]
        exact Char.toUpper_eq_of_not_isLower (Char.not_isLower_of_isUpper hupper)
      rw [snakeChars_cons_of_isUpper hupper, camelChars, if_pos ⟨rfl, hlower⟩, hback, hrest]
    · have hstays := not_beginsMarked_cons_snakeChars h.1
      rw [snakeChars_cons_of_not_isUpper hupper, camelChars_cons hstays, hrest]

/-- An internal spelling begins with a lower-case letter only if the wire spelling did. -/
theorem head?_camelChars {cs : List Char} {letter : Char} (hlower : letter.isLower = true)
    (h : (camelChars cs).head? = some letter) : cs.head? = some letter := by
  unfold camelChars at h
  split at h
  · exact h
  · exact h
  · split at h
    · rename_i next _ _
      obtain rfl := Option.some.inj h
      rw [Char.isLower_toUpper_eq_false] at hlower
      exact absurd hlower Bool.false_ne_true
    · exact h

/-- No internal spelling has a lower-case letter right after an underscore. -/
theorem not_marked_camelChars (cs : List Char) : ¬ Marked (camelChars cs) := by
  fun_induction camelChars cs with
  | case1 => exact not_marked_nil
  | case2 c =>
    rw [marked_cons, not_or]
    exact ⟨not_beginsMarked_singleton c, not_marked_nil⟩
  | case3 c next rest hmark ih =>
    rw [marked_cons, not_or]
    refine ⟨?_, ih⟩
    -- the letter is in upper case and so not an underscore
    rintro ⟨letter, -, hprefix⟩
    have hunderscore := (List.cons_prefix_cons.mp hprefix).1
    have hupper : next.toUpper.isUpper = true := by
      rw [Char.isUpper_toUpper_eq_isAlpha, Char.isAlpha, hmark.2, Bool.or_true]
    rw [← hunderscore] at hupper
    exact absurd hupper (by decide)
  | case4 c next rest hmark ih =>
    rw [marked_cons, not_or]
    refine ⟨?_, ih⟩
    -- a lower-case letter here would have been one before, and so replaced with the underscore
    rintro ⟨letter, hlower, hprefix⟩
    rcases List.cons_prefix_cons.mp hprefix with ⟨hunderscore, ⟨others, htail⟩⟩
    have hhead : (camelChars (next :: rest)).head? = some letter := by
      rw [← htail]
      rfl
    obtain rfl := Option.some.inj (head?_camelChars hlower hhead)
    exact hmark ⟨hunderscore.symm, hlower⟩

/-! ## Keys -/

theorem not_marked_toCamel (key : String) : ¬ Marked (toCamel key).toList := by
  rw [toCamel, String.toList_ofList]
  exact not_marked_camelChars key.toList

/-- A key comes back from its wire spelling exactly if no lower-case letter comes right after an
underscore. -/
theorem toCamel_toSnake {key : String} :
    toCamel (toSnake key) = key ↔ ¬ Marked key.toList := by
  constructor
  · intro h
    rw [← h]
    exact not_marked_toCamel (toSnake key)
  · intro h
    rw [toCamel, toSnake, String.toList_ofList, camelChars_snakeChars h, String.ofList_toList]

example :
    toSnake "__MapURL_1é" = "___map_u_r_l_1é" ∧ toCamel "___map_u_r_l_1é" = "__MapURL_1é" := by
  decide

namespace Json

/-! ## The keys of a value -/

mutual

/-- Every key of a value is of a kind, at every depth. -/
def EveryKey (kind : String → Prop) : Json → Prop
  | .list items => ItemsEveryKey kind items
  | .record fields => FieldsEveryKey kind fields
  | _ => True

/-- Every key in the items of a list is of a kind. -/
def ItemsEveryKey (kind : String → Prop) : List Json → Prop
  | [] => True
  | item :: rest => EveryKey kind item ∧ ItemsEveryKey kind rest

/-- Every key of fields and in their values is of a kind. -/
def FieldsEveryKey (kind : String → Prop) : Fields → Prop
  | [] => True
  | (key, value) :: rest => (kind key ∧ EveryKey kind value) ∧ FieldsEveryKey kind rest

end

section

variable {kind : String → Prop}

theorem itemsEveryKey_iff {items : List Json} :
    ItemsEveryKey kind items ↔ ∀ item ∈ items, EveryKey kind item := by
  induction items with
  | nil => simp [ItemsEveryKey]
  | cons item rest ih => rw [ItemsEveryKey, ih, List.forall_mem_cons]

theorem fieldsEveryKey_iff {fields : Fields} :
    FieldsEveryKey kind fields ↔ ∀ field ∈ fields, kind field.1 ∧ EveryKey kind field.2 := by
  induction fields with
  | nil => simp [FieldsEveryKey]
  | cons field rest ih => rw [FieldsEveryKey, ih, List.forall_mem_cons]

end

/-! ## Respelled values -/

/-- A field of a respelled record is a respelled field. -/
theorem exists_of_mem_respelled {respell : String → String} {fields : Fields}
    {field : String × Json} (h : field ∈ ofFields (mapKeysFields respell fields)) :
    ∃ original ∈ fields, field = (respell original.1, mapKeys respell original.2) := by
  have hmem := mem_of_mem_ofFields h
  rw [mapKeysFields_eq_map] at hmem
  rcases List.mem_map.mp hmem with ⟨original, horiginal, rfl⟩
  exact ⟨original, horiginal, rfl⟩

/-- Respelling sorts the records of a value, at every depth. -/
theorem isSorted_mapKeys (respell : String → String) (value : Json) :
    IsSorted (mapKeys respell value) := by
  induction value using inductionOn with
  | null | flag _ | number _ | text _ => trivial
  | list items ih =>
    rw [mapKeys, IsSorted, mapKeysItems_eq_map, allSorted_iff, List.forall_mem_map]
    exact ih
  | record fields ih =>
    rw [mapKeys, IsSorted, fieldsSorted_iff]
    refine ⟨keysAscend_ofFields _, ?_⟩
    intro field hmem
    rcases exists_of_mem_respelled hmem with ⟨original, horiginal, rfl⟩
    exact ih original horiginal

/-- All keys of a respelled value are spellings. -/
theorem everyKey_mapKeys {kind : String → Prop} {respell : String → String}
    (h : ∀ key, kind (respell key)) (value : Json) : EveryKey kind (mapKeys respell value) := by
  induction value using inductionOn with
  | null | flag _ | number _ | text _ => trivial
  | list items ih =>
    rw [mapKeys, EveryKey, mapKeysItems_eq_map, itemsEveryKey_iff, List.forall_mem_map]
    exact ih
  | record fields ih =>
    rw [mapKeys, EveryKey, fieldsEveryKey_iff]
    intro field hmem
    rcases exists_of_mem_respelled hmem with ⟨original, horiginal, rfl⟩
    exact ⟨h original.1, ih original horiginal⟩

section

variable {there back : String → String} {kind : String → Prop}

/-- A record comes back if its fields do one by one: none was lost, for keys of one spelling would
come back as the same key. -/
theorem ofFields_mapKeysFields_ofFields {fields : Fields} (hascend : KeysAscend fields)
    (h : mapKeysFields back (mapKeysFields there fields) = fields) :
    ofFields (mapKeysFields back (ofFields (mapKeysFields there fields))) = fields := by
  have hkeys : ((mapKeysFields there fields).map Prod.fst).Nodup := by
    apply List.Nodup.of_map back
    rw [← mapKeysFields_keys, h]
    exact keys_nodup_of_keysAscend hascend
  have hperm : (mapKeysFields back (ofFields (mapKeysFields there fields))).Perm
      (mapKeysFields back (mapKeysFields there fields)) := by
    rw [mapKeysFields_eq_map back, mapKeysFields_eq_map back]
    exact (ofFields_perm hkeys).map _
  rw [h] at hperm
  exact ofFields_of_perm hperm hascend

/-- A value comes back if its keys do one by one. -/
theorem mapKeys_mapKeys (hback : ∀ key, kind key → back (there key) = key) {value : Json}
    (hsorted : IsSorted value) (hkeys : EveryKey kind value) :
    mapKeys back (mapKeys there value) = value := by
  induction value using inductionOn with
  | null | flag _ | number _ | text _ => rfl
  | list items ih =>
    rw [IsSorted, allSorted_iff] at hsorted
    rw [EveryKey, itemsEveryKey_iff] at hkeys
    have hitems : mapKeysItems back (mapKeysItems there items) = items := by
      have heach : ∀ item ∈ items, (mapKeys back ∘ mapKeys there) item = id item :=
        fun item hitem => ih item hitem (hsorted item hitem) (hkeys item hitem)
      rw [mapKeysItems_eq_map, mapKeysItems_eq_map, List.map_map, List.map_congr_left heach,
        List.map_id]
    rw [mapKeys, mapKeys, hitems]
  | record fields ih =>
    rw [IsSorted, fieldsSorted_iff] at hsorted
    rw [EveryKey, fieldsEveryKey_iff] at hkeys
    -- one by one the fields come back in order, but there they were in another
    have hfields : mapKeysFields back (mapKeysFields there fields) = fields := by
      have heach : ∀ field ∈ fields,
          (back (there field.1), mapKeys back (mapKeys there field.2)) = id field := by
        intro field hfield
        have hvalue := ih field hfield (hsorted.2 field hfield) (hkeys field hfield).2
        exact Prod.ext (hback field.1 (hkeys field hfield).1) hvalue
      rw [mapKeysFields_eq_map, mapKeysFields_eq_map, List.map_map]
      exact (List.map_congr_left heach).trans (List.map_id fields)
    rw [mapKeys, mapKeys, ofFields_mapKeysFields_ofFields hsorted.1 hfields]

end

/-- What is read back from the wire spelling of a value is the value itself exactly if its records
are sorted, as they are in values that were read, and none of its keys has a lower-case letter right
after an underscore. -/
theorem toInternal_toWire (value : Json) :
    value.toWire.toInternal = value ↔
      value.IsSorted ∧ value.EveryKey fun key => ¬ Marked key.toList := by
  constructor
  · intro h
    rw [← h]
    exact ⟨isSorted_mapKeys toCamel value.toWire, everyKey_mapKeys not_marked_toCamel value.toWire⟩
  · rintro ⟨hsorted, hkeys⟩
    exact mapKeys_mapKeys (fun key => toCamel_toSnake.mpr) hsorted hkeys

end Json

end GameShelf
