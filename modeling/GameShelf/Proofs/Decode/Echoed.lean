import GameShelf.Client.Input
import GameShelf.Proofs.Backend.Written
import GameShelf.Proofs.Decode.Found
import GameShelf.Proofs.Json.RoundTrip

/-!
# What was said comes back

What a change says is a record of scalars. Its names are plain: they come back from the wire
spelling, and no two of them are the same. When a server sends it back with an identifier, the
record is decoded to what was said.

* `Json.identified`, `echoed`: a record with an identifier, and what is sent back of what was said.
* `PlainFields`: fields with scalars under some names, each at most once.
* `PlainFields.read_echoed`: what is decoded of such fields when they come back.
-/

namespace GameShelf

open Json (IsScalar)

/-- A record with an identifier. -/
def Json.identified (id : String) : Json → Json
  | .record fields => .record (insert "id" (.text id) fields)
  | other => other

/-- What comes back of what was said: it went over the wire, and has an identifier now. -/
def echoed (id : String) (said : Json) : Json :=
  Json.identified id said.toWire.toInternal

/-! ## Plain fields -/

/-- Fields with scalars, in the order of some names, of which they may leave out any. -/
structure PlainFields (names : List String) (fields : Json.Fields) : Prop where
  names_sublist : (fields.map Prod.fst).Sublist names
  scalar : ∀ field ∈ fields, IsScalar field.2

namespace PlainFields

variable {names others : List String} {fields further : Json.Fields}

theorem one (key : String) {value : Json} (h : IsScalar value) :
    PlainFields [key] [(key, value)] := by
  refine ⟨List.Sublist.refl _, fun field hmem => ?_⟩
  rw [List.mem_singleton.mp hmem]
  exact h

/-- A field that is not given is left out. -/
theorem given {α : Type} {write : α → Json.Fields} (h : ∀ value, PlainFields names (write value))
    (value : Option α) : PlainFields names (Input.given write value) := by
  cases value with
  | none => exact ⟨List.nil_sublist names, fun _ hmem => absurd hmem List.not_mem_nil⟩
  | some value => exact h value

theorem append (h : PlainFields names fields) (hfurther : PlainFields others further) :
    PlainFields (names ++ others) (fields ++ further) := by
  constructor
  · rw [List.map_append]
    exact h.names_sublist.append hfurther.names_sublist
  · intro field hmem
    rcases List.mem_append.mp hmem with hfirst | hsecond
    · exact h.scalar field hfirst
    · exact hfurther.scalar field hsecond

theorem text (key value : String) : PlainFields [key] (Input.text key value) :=
  one key trivial

theorem flag (key : String) (value : Bool) : PlainFields [key] (Input.flag key value) :=
  one key trivial

theorem tag {α : Type} [Tag α] (key : String) (value : α) :
    PlainFields [key] (Input.tag key value) :=
  one key trivial

theorem date (key : String) (value : Date) : PlainFields [key] (Input.date key value) :=
  one key trivial

theorem amount (key : String) (value : Binary64) :
    PlainFields [key] (Input.amount key value) := by
  apply one
  split
  · trivial
  · trivial

end PlainFields

/-! ## Records of scalars -/

namespace Json

variable {fields : Fields}

theorem isSorted_scalar {value : Json} (h : IsScalar value) : IsSorted value := by
  cases value with
  | list items => exact h.elim
  | record fields => exact h.elim
  | null | flag _ | number _ | text _ => trivial

theorem everyKey_scalar (kind : String → Prop) {value : Json} (h : IsScalar value) :
    EveryKey kind value := by
  cases value with
  | list items => exact h.elim
  | record fields => exact h.elim
  | null | flag _ | number _ | text _ => trivial

/-- A record of scalars comes back from the wire spelling if its keys have no underscores. -/
theorem respelled_recordOf (hscalar : ∀ field ∈ fields, IsScalar field.2)
    (hkeys : ∀ field ∈ fields, '_' ∉ field.1.toList) :
    (recordOf fields).toWire.toInternal = recordOf fields := by
  have hsorted : (recordOf fields).IsSorted := by
    refine ⟨keysAscend_ofFields fields, fieldsSorted_iff.mpr fun field hmem => ?_⟩
    exact isSorted_scalar (hscalar field (mem_of_mem_ofFields hmem))
  have hplain : (recordOf fields).EveryKey fun key => '_' ∉ key.toList := by
    refine fieldsEveryKey_iff.mpr fun field hmem => ?_
    have hfield := mem_of_mem_ofFields hmem
    exact ⟨hkeys field hfield, everyKey_scalar _ (hscalar field hfield)⟩
  refine mapKeys_mapKeys (fun key hkey => toCamel_toSnake.mpr ?_) hsorted hplain
  -- without underscores no letter comes after one
  rintro ⟨letter, -, hpair⟩
  exact hkey (hpair.subset List.mem_cons_self)

end Json

namespace PlainFields

variable {names : List String} {fields : Json.Fields}

/-- Plain fields come back with an identifier after them. -/
theorem echoed_eq (h : PlainFields names fields) (hnames : ∀ name ∈ names, '_' ∉ name.toList)
    (id : String) :
    echoed id (Json.recordOf fields) = Json.recordOf (fields ++ [("id", .text id)]) := by
  have hkeys : ∀ field ∈ fields, '_' ∉ field.1.toList := fun field hmem =>
    hnames field.1 (h.names_sublist.subset (List.mem_map_of_mem hmem))
  rw [echoed, Json.respelled_recordOf h.scalar hkeys, Json.recordOf, Json.recordOf, Json.ofFields,
    Json.ofFields, List.foldl_append]
  rfl

/-- Plain fields that come back are decoded to what they say. -/
theorem read_echoed {ρ : Type} (layout : Decode.Layout ρ) (h : PlainFields names fields)
    (hnames : ∀ name ∈ names, '_' ∉ name.toList) (hnodup : (names ++ ["id"]).Nodup) (id : String)
    (values : Decode.Values layout.types) (hfields : (Decode.allNames layout.fields).Nodup)
    (hfinds : Decode.Finds layout.fields (fields ++ [("id", .text id)]) values) :
    layout.read (echoed id (Json.recordOf fields)) = .ok (layout.build values) := by
  have hkeys : ((fields ++ [("id", Json.text id)]).map Prod.fst).Nodup := by
    rw [List.map_append]
    exact hnodup.sublist (h.names_sublist.append (List.Sublist.refl _))
  rw [h.echoed_eq hnames]
  exact layout.read_of_finds values hfields (hfinds.perm (Json.ofFields_perm hkeys).symm)

end PlainFields

end GameShelf
