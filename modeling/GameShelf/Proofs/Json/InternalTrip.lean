import GameShelf.Proofs.Json.RoundTrip

/-!
# There and back through the internal spelling

A wire value that is respelled as an internal one comes back in wire spelling as the value it was,
and that holds of exactly those values in which no key has an ASCII letter in upper case. Such a
letter stands in no wire spelling. All other keys come back as they were, with underscores at either
end, in a row or before digits: what is in upper case in the internal spelling of such a key is
nothing but the letters whose underscores were taken away.

* `Capitalized`: texts with a letter in upper case.
* `not_capitalized_toSnake`: no wire spelling is one of them.
* `toSnake_toCamel`: one key.
* `Json.toWire_toInternal`: whole values.
-/

namespace GameShelf

/-! ## Texts -/

/-- Somewhere in the text there is an ASCII letter in upper case. -/
def Capitalized (cs : List Char) : Prop :=
  ∃ letter ∈ cs, letter.isUpper = true

theorem not_capitalized_nil : ¬ Capitalized [] := by
  rintro ⟨letter, hmem, -⟩
  exact absurd hmem List.not_mem_nil

theorem capitalized_cons {c : Char} {rest : List Char} :
    Capitalized (c :: rest) ↔ c.isUpper = true ∨ Capitalized rest := by
  simp only [Capitalized, List.exists_mem_cons_iff]

/-- A wire spelling has lower-case letters behind underscores for all that were in upper case. -/
theorem not_capitalized_snakeChars (cs : List Char) : ¬ Capitalized (snakeChars cs) := by
  induction cs with
  | nil => exact not_capitalized_nil
  | cons c rest ih =>
    by_cases hupper : c.isUpper = true
    · have hunderscore : ¬ '_'.isUpper = true := by decide
      have hlower : ¬ c.toLower.isUpper = true := by
        rw [Char.isUpper_toLower_eq_false]
        exact Bool.false_ne_true
      rw [snakeChars_cons_of_isUpper hupper, capitalized_cons, capitalized_cons, not_or, not_or]
      exact ⟨hunderscore, hlower, ih⟩
    · rw [snakeChars_cons_of_not_isUpper hupper, capitalized_cons, not_or]
      exact ⟨hupper, ih⟩

/-- The wire spelling of the internal spelling. By induction along the scan: a letter in upper case
is there only for an underscore and the letter after it, and is written as these two again. -/
theorem snakeChars_camelChars {cs : List Char} (h : ¬ Capitalized cs) :
    snakeChars (camelChars cs) = cs := by
  fun_induction camelChars cs with
  | case1 => rfl
  | case2 c =>
    rw [capitalized_cons, not_or] at h
    exact snakeChars_cons_of_not_isUpper h.1 []
  | case3 c next rest hmark ih =>
    rcases hmark with ⟨rfl, hlower⟩
    rw [capitalized_cons, capitalized_cons, not_or, not_or] at h
    have hupper : next.toUpper.isUpper = true := by
      rw [Char.isUpper_toUpper_eq_isAlpha, Char.isAlpha, hlower, Bool.or_true]
    have hback : next.toUpper.toLower = next := by
      rw [Char.toLower_toUpper_eq_toLower]
      exact Char.toLower_eq_of_not_isUpper h.2.1
    rw [snakeChars_cons_of_isUpper hupper, hback, ih h.2.2]
  | case4 c next rest hmark ih =>
    rw [capitalized_cons, not_or] at h
    rw [snakeChars_cons_of_not_isUpper h.1, ih h.2]

/-! ## Keys -/

theorem not_capitalized_toSnake (key : String) : ¬ Capitalized (toSnake key).toList := by
  rw [toSnake, String.toList_ofList]
  exact not_capitalized_snakeChars key.toList

/-- A key comes back from its internal spelling exactly if it has no letter in upper case. -/
theorem toSnake_toCamel {key : String} :
    toSnake (toCamel key) = key ↔ ¬ Capitalized key.toList := by
  constructor
  · intro h
    rw [← h]
    exact not_capitalized_toSnake (toCamel key)
  · intro h
    rw [toSnake, toCamel, String.toList_ofList, snakeChars_camelChars h, String.ofList_toList]

example : toCamel "__map_é_1_x_" = "_Map_é_1X_" ∧ toSnake "_Map_é_1X_" = "__map_é_1_x_" := by
  decide

/-! ## Values -/

/-- What comes back in wire spelling from the internal spelling of a value is the value itself
exactly if its records are sorted, as they are in values that were read, and none of its keys has a
letter in upper case. -/
theorem Json.toWire_toInternal (value : Json) :
    value.toInternal.toWire = value ↔
      value.IsSorted ∧ value.EveryKey fun key => ¬ Capitalized key.toList := by
  constructor
  · intro h
    have hsorted : IsSorted value.toInternal.toWire := isSorted_mapKeys toSnake value.toInternal
    have hkeys : EveryKey (fun key => ¬ Capitalized key.toList) value.toInternal.toWire :=
      everyKey_mapKeys not_capitalized_toSnake value.toInternal
    rw [h] at hsorted hkeys
    exact ⟨hsorted, hkeys⟩
  · rintro ⟨hsorted, hkeys⟩
    exact mapKeys_mapKeys (fun key => toSnake_toCamel.mpr) hsorted hkeys

end GameShelf
