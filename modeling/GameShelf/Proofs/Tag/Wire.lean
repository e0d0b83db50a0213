import GameShelf.Tag.Tables

/-!
# Tags are found by their wire texts

Every tag has a wire text, and the table of its set has that text under its own key. So a wire text
is never taken for another tag, nor for an unknown one.

* `LawfulTag`: a closed set whose wire texts stand for their tags.
* `Tag.take_wire`, `Tag.takeOptional_map_wire`: a tag comes back from its wire text, with no notice.
-/

namespace GameShelf

/-- A closed set in which the wire text of a tag stands for it. -/
class LawfulTag (α : Type) [Tag α] : Prop where
  trimToSome_wire (tag : α) : Text.trimToSome (some (Tag.wire tag)) = some (Tag.wire tag)
  find?_wire (tag : α) : Tag.find? (Tag.wire tag) = some tag

/-! ## The sets of the library -/

instance : LawfulTag PlaceKind where
  trimToSome_wire tag := by cases tag <;> decide
  find?_wire tag := by cases tag <;> decide

instance : LawfulTag CompartmentKind where
  trimToSome_wire tag := by cases tag <;> decide
  find?_wire tag := by cases tag <;> decide

instance : LawfulTag Platform where
  trimToSome_wire tag := by cases tag <;> decide
  find?_wire tag := by cases tag <;> decide

instance : LawfulTag PaymentMethod where
  trimToSome_wire tag := by cases tag <;> decide
  find?_wire tag := by cases tag <;> decide

instance : LawfulTag BillingCycle where
  trimToSome_wire tag := by cases tag <;> decide
  find?_wire tag := by cases tag <;> decide

instance : LawfulTag Color where
  trimToSome_wire tag := by cases tag <;> decide
  find?_wire tag := by cases tag <;> decide

/-! ## Taking wire texts -/

namespace Tag

variable {α : Type} [Tag α] [LawfulTag α]

theorem take_wire (fallback tag : α) : take fallback (some (wire tag)) = ⟨tag, []⟩ := by
  simp only [take, LawfulTag.trimToSome_wire, LawfulTag.find?_wire]
  rfl

/-- A tag that is not given is not found either. -/
theorem takeOptional_map_wire (tag : Option α) : takeOptional α (tag.map wire) = ⟨tag, []⟩ := by
  cases tag with
  | none => rfl
  | some tag =>
    simp only [takeOptional, Option.map_some, LawfulTag.trimToSome_wire, LawfulTag.find?_wire]
    rfl

end Tag

end GameShelf
