import GameShelf.Decode.Record
import GameShelf.Proofs.Results

/-!
# What decoded records come from

If a record can be decoded, the value of each of its fields was read under a key that names the
field.

* `visitAll_head`, `visitAll_tail`: what is found for the first field of a description, and for
  the others.
* `Gives`: the values that come of it, with `Gives.head` and `Gives.second` for single fields.
-/

namespace GameShelf.Decode

variable {α : Type} {types : List Type}

/-! ## One key after another -/

theorem visitAll_cons {fields : FieldList types} {draft last : Draft types} {key : String}
    {value : Json} {rest : Json.Fields}
    (h : visitAll fields draft ((key, value) :: rest) = .ok last) :
    ∃ next, visit fields draft key value = .ok next ∧ visitAll fields next rest = .ok last :=
  exists_of_bind_eq_ok h

/-- Fields are read after those before them. -/
theorem visitAll_append (fields : FieldList types) (draft : Draft types)
    (before after : Json.Fields) :
    visitAll fields draft (before ++ after) =
      (visitAll fields draft before).bind fun next => visitAll fields next after := by
  induction before generalizing draft with
  | nil => rfl
  | cons field rest ih =>
    rw [List.cons_append, visitAll, visitAll]
    cases visit fields draft field.1 field.2 with
    | error fault => rfl
    | ok next => exact ih next

section

variable {fields : FieldList (α :: types)} {draft next last : Draft (α :: types)} {key : String}
  {value : Json}

theorem visit_eq : visit fields draft key value =
    if fields.1.answersTo key then
      match draft.1 with
      | some _ => .error (.duplicateField fields.1.name)
      | none => (fields.1.read value).map fun read => (some read, draft.2)
    else (visit fields.2 draft.2 key value).map fun rest => (draft.1, rest) := rfl

/-- A key that names the first field gives it its value, which it had not before. -/
theorem visit_names (hkey : fields.1.answersTo key = true)
    (h : visit fields draft key value = .ok next) :
    ∃ read, fields.1.read value = .ok read ∧ next = (some read, draft.2) := by
  rw [visit_eq, if_pos hkey] at h
  cases hfound : draft.1 with
  | some _ =>
    rw [hfound] at h
    exact absurd h (by simp)
  | none =>
    rw [hfound] at h
    rcases exists_of_map_eq_ok h with ⟨read, hread, rfl⟩
    exact ⟨read, hread, rfl⟩

/-- Any other key leaves the first field alone. -/
theorem visit_others (hkey : fields.1.answersTo key = false)
    (h : visit fields draft key value = .ok next) :
    next.1 = draft.1 ∧ visit fields.2 draft.2 key value = .ok next.2 := by
  rw [visit_eq, hkey, if_neg Bool.false_ne_true] at h
  rcases exists_of_map_eq_ok h with ⟨rest, hrest, rfl⟩
  exact ⟨rfl, hrest⟩

/-- A key for a field that was found is a fault. -/
theorem visit_of_isFound {types : List Type} {fields : FieldList types} {draft : Draft types}
    {key : String} (h : isFound fields draft key = true) (value : Json) :
    ∃ fault, visit fields draft key value = .error fault := by
  induction types with
  | nil => exact absurd h Bool.false_ne_true
  | cons α types ih =>
    rcases fields with ⟨field, others⟩
    rcases draft with ⟨found, rest⟩
    rw [isFound] at h
    rw [visit_eq]
    split at h
    · rename_i hkey
      rw [if_pos hkey]
      rcases Option.isSome_iff_exists.mp h with ⟨value, rfl⟩
      exact ⟨_, rfl⟩
    · rename_i hkey
      rcases ih h with ⟨fault, hfault⟩
      rw [if_neg hkey, hfault]
      exact ⟨fault, rfl⟩

/-- What was found for the first field is kept. -/
theorem visitAll_keeps {read : α} {record : Json.Fields} (hfound : draft.1 = some read)
    (h : visitAll fields draft record = .ok last) : last.1 = some read := by
  induction record generalizing draft with
  | nil =>
    obtain rfl := Except.ok.inj h
    exact hfound
  | cons first rest ih =>
    rcases visitAll_cons h with ⟨next, hvisit, hrest⟩
    cases hkey : fields.1.answersTo first.1 with
    | false => exact ih ((visit_others hkey hvisit).1.trans hfound) hrest
    | true =>
      -- a second key for the field is a fault
      rw [visit_eq, if_pos hkey, hfound] at hvisit
      exact absurd hvisit (by simp)

/-- The first field has the value that was read under a key for it. -/
theorem visitAll_head {record : Json.Fields} (h : visitAll fields draft record = .ok last)
    (hmem : (key, value) ∈ record) (hkey : fields.1.answersTo key = true) :
    ∃ read, fields.1.read value = .ok read ∧ last.1 = some read := by
  induction record generalizing draft with
  | nil => exact absurd hmem List.not_mem_nil
  | cons first rest ih =>
    rcases visitAll_cons h with ⟨next, hvisit, hrest⟩
    rcases List.mem_cons.mp hmem with rfl | hmem
    · rcases visit_names hkey hvisit with ⟨read, hread, rfl⟩
      exact ⟨read, hread, visitAll_keeps rfl hrest⟩
    · exact ih hrest hmem

/-- The other fields have the values that were read under the keys that do not name the first. -/
theorem visitAll_tail {record : Json.Fields} (h : visitAll fields draft record = .ok last) :
    visitAll fields.2 draft.2 (record.filter fun field => !fields.1.answersTo field.1) =
      .ok last.2 := by
  induction record generalizing draft with
  | nil =>
    obtain rfl := Except.ok.inj h
    rfl
  | cons first rest ih =>
    rcases visitAll_cons h with ⟨next, hvisit, hrest⟩
    rw [List.filter_cons]
    cases hkey : fields.1.answersTo first.1 with
    | true =>
      rcases visit_names hkey hvisit with ⟨read, -, rfl⟩
      have htail := ih hrest
      exact htail
    | false =>
      rw [Bool.not_false, if_pos rfl, visitAll, (visit_others hkey hvisit).2]
      exact ih hrest

end

/-! ## Whole records -/

section

variable {fields : FieldList (α :: types)} {values : Values (α :: types)}

/-- A value and the values of the other fields make up all values. -/
theorem complete_rest {first : Except DecodeError α} {rest : Draft types}
    (h : (first.bind fun value => (complete fields.2 rest).bind fun others =>
      Except.ok (value, others)) = .ok values) :
    first = .ok values.1 ∧ complete fields.2 rest = .ok values.2 := by
  rcases exists_of_bind_eq_ok h with ⟨value, hvalue, h⟩
  rcases exists_of_bind_eq_ok h with ⟨others, hothers, h⟩
  obtain rfl := Except.ok.inj h
  exact ⟨hvalue, hothers⟩

/-- What is found for the first field is its value, and the others are completed likewise. -/
theorem complete_cons {draft : Draft (α :: types)} (h : complete fields draft = .ok values) :
    (∀ read, draft.1 = some read → values.1 = read) ∧
      complete fields.2 draft.2 = .ok values.2 := by
  rcases draft with ⟨found, rest⟩
  cases found with
  | none =>
    have hnone : complete fields (none, rest) =
        fields.1.whenAbsent.bind fun value => (complete fields.2 rest).bind fun others =>
          .ok (value, others) := rfl
    rcases complete_rest (hnone.symm.trans h) with ⟨-, hothers⟩
    exact ⟨fun read hread => absurd hread (by simp), hothers⟩
  | some value =>
    have hsome : complete fields (some value, rest) =
        (Except.ok value).bind fun value => (complete fields.2 rest).bind fun others =>
          .ok (value, others) := rfl
    rcases complete_rest (hsome.symm.trans h) with ⟨hvalue, hothers⟩
    refine ⟨?_, hothers⟩
    intro read hread
    obtain rfl := Option.some.inj hread
    exact (Except.ok.inj hvalue).symm

end

/-- The values of fields as they are decoded from a record. -/
def Gives (fields : FieldList types) (record : Json.Fields) (values : Values types) : Prop :=
  ∃ draft, visitAll fields (Draft.blank types) record = .ok draft ∧
    complete fields draft = .ok values

namespace Gives

variable {fields : FieldList (α :: types)} {record : Json.Fields} {values : Values (α :: types)}

/-- The first value was read under any key that names its field. -/
theorem head (h : Gives fields record values) {key : String} {value : Json}
    (hmem : (key, value) ∈ record) (hkey : fields.1.answersTo key = true) :
    fields.1.read value = .ok values.1 := by
  rcases h with ⟨draft, hvisit, hcomplete⟩
  rcases visitAll_head hvisit hmem hkey with ⟨read, hread, hfound⟩
  rw [hread, (complete_cons hcomplete).1 read hfound]

/-- The other values come from the other keys. -/
theorem tail (h : Gives fields record values) :
    Gives fields.2 (record.filter fun field => !fields.1.answersTo field.1) values.2 := by
  rcases h with ⟨draft, hvisit, hcomplete⟩
  exact ⟨draft.2, visitAll_tail hvisit, (complete_cons hcomplete).2⟩

/-- The second value was read under any key that names its field and not the first one. -/
theorem second {β : Type} {fields : FieldList (α :: β :: types)} {values : Values (α :: β :: types)}
    (h : Gives fields record values) {key : String} {value : Json} (hmem : (key, value) ∈ record)
    (hfirst : fields.1.answersTo key = false) (hkey : fields.2.1.answersTo key = true) :
    fields.2.1.read value = .ok values.2.1 := by
  have htail : Gives fields.2 (record.filter fun field => !fields.1.answersTo field.1) values.2 :=
    h.tail
  refine htail.head (List.mem_filter.mpr ⟨hmem, ?_⟩) hkey
  rw [hfirst, Bool.not_false]

end Gives

/-- A record that is decoded is made from the values that it gives. -/
theorem Layout.read_record {ρ : Type} {layout : Layout ρ} {record : Json.Fields} {result : ρ}
    (h : layout.read (.record record) = .ok result) :
    ∃ values, Gives layout.fields record values ∧ result = layout.build values := by
  have hread : layout.read (.record record) =
      (visitAll layout.fields (Draft.blank layout.types) record).bind fun draft =>
        (complete layout.fields draft).bind fun values => .ok (layout.build values) := rfl
  rw [hread] at h
  rcases exists_of_bind_eq_ok h with ⟨draft, hvisit, h⟩
  rcases exists_of_bind_eq_ok h with ⟨values, hcomplete, h⟩
  exact ⟨values, ⟨draft, hvisit, hcomplete⟩, (Except.ok.inj h).symm⟩

end GameShelf.Decode
