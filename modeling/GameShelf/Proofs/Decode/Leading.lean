import GameShelf.Proofs.Decode.Record

/-!
# Records with further fields

A description may ask for the fields of another one and for more. A record that it decodes is
decoded by the shorter one too, to the same values; keys of the further fields are then passed
over.

* `FieldList.leading`, `Draft.leading`, `Values.leading`: the part for the first types.
* `Gives.leading`: the values of a record, as far as the shorter description asks for them.
-/

namespace GameShelf.Decode

variable {more : List Type}

/-- The fields of the first types. -/
def FieldList.leading : (types : List Type) → FieldList (types ++ more) → FieldList types
  | [], _ => ()
  | _ :: types, (field, others) => (field, leading types others)

/-- What was found for the fields of the first types. -/
def Draft.leading : (types : List Type) → Draft (types ++ more) → Draft types
  | [], _ => ()
  | _ :: types, (found, rest) => (found, leading types rest)

/-- The values of the first types. -/
def Values.leading : (types : List Type) → Values (types ++ more) → Values types
  | [], _ => ()
  | _ :: types, (value, others) => (value, leading types others)

theorem Draft.leading_blank (types : List Type) :
    Draft.leading types (Draft.blank (types ++ more)) = Draft.blank types := by
  induction types with
  | nil => rfl
  | cons _ types ih => exact congrArg (Prod.mk none) ih

variable {types : List Type}

/-- A key is read for the first fields as it is read for all of them. -/
theorem visit_leading {fields : FieldList (types ++ more)} {draft next : Draft (types ++ more)}
    {key : String} {value : Json} (h : visit fields draft key value = .ok next) :
    visit (FieldList.leading types fields) (Draft.leading types draft) key value =
      .ok (Draft.leading types next) := by
  induction types with
  | nil => rfl
  | cons α types ih =>
    change FieldList (α :: (types ++ more)) at fields
    change Draft (α :: (types ++ more)) at draft next
    have hvisit : visit fields draft key value = .ok next := h
    change @visit (α :: types) (fields.1, FieldList.leading types fields.2)
      (draft.1, Draft.leading types draft.2) key value = .ok (next.1, Draft.leading types next.2)
    rw [visit_eq] at hvisit ⊢
    cases hkey : fields.1.answersTo key with
    | true =>
      rw [hkey, if_pos rfl] at hvisit
      rw [if_pos rfl]
      cases hfound : draft.1 with
      | some _ =>
        rw [hfound] at hvisit
        exact absurd hvisit (by simp)
      | none =>
        rw [hfound] at hvisit
        rcases exists_of_map_eq_ok hvisit with ⟨read, hread, rfl⟩
        simp only [hread]
        rfl
    | false =>
      rw [hkey, if_neg Bool.false_ne_true] at hvisit
      rw [if_neg Bool.false_ne_true]
      rcases exists_of_map_eq_ok hvisit with ⟨rest, hrest, rfl⟩
      simp only [ih hrest]
      rfl

theorem visitAll_leading {fields : FieldList (types ++ more)} {draft last : Draft (types ++ more)}
    {record : Json.Fields} (h : visitAll fields draft record = .ok last) :
    visitAll (FieldList.leading types fields) (Draft.leading types draft) record =
      .ok (Draft.leading types last) := by
  induction record generalizing draft with
  | nil =>
    obtain rfl := Except.ok.inj h
    rfl
  | cons field rest ih =>
    rcases visitAll_cons h with ⟨next, hvisit, hrest⟩
    rw [visitAll, visit_leading hvisit]
    exact ih hrest

/-- The value of a field, given what was found for it. -/
def Field.settle {α : Type} (field : Field α) (found : Option α) : Except DecodeError α :=
  match found with
  | some value => .ok value
  | none => field.whenAbsent

theorem complete_eq {α : Type} (fields : FieldList (α :: types)) (draft : Draft (α :: types)) :
    complete fields draft = (fields.1.settle draft.1).bind fun value =>
      (complete fields.2 draft.2).bind fun others => .ok (value, others) := by
  rcases draft with ⟨found, rest⟩
  cases found <;> rfl

theorem complete_leading {fields : FieldList (types ++ more)} {draft : Draft (types ++ more)}
    {values : Values (types ++ more)} (h : complete fields draft = .ok values) :
    complete (FieldList.leading types fields) (Draft.leading types draft) =
      .ok (Values.leading types values) := by
  induction types with
  | nil => rfl
  | cons α types ih =>
    rcases fields with ⟨field, others⟩
    rcases draft with ⟨found, rest⟩
    have hall : complete ((field, others) : FieldList (α :: (types ++ more))) (found, rest) =
        .ok values := h
    rw [complete_eq] at hall
    rcases complete_rest hall with ⟨hvalue, hothers⟩
    rw [complete_eq]
    simp only [FieldList.leading, Draft.leading, ih hothers, hvalue]
    rfl

/-- What a record gives for all fields, it gives for the first ones alone. -/
theorem Gives.leading {fields : FieldList (types ++ more)} {record : Json.Fields}
    {values : Values (types ++ more)} (h : Gives fields record values) :
    Gives (FieldList.leading types fields) record (Values.leading types values) := by
  rcases h with ⟨draft, hvisit, hcomplete⟩
  have hblank : Draft.leading types (Draft.blank (types ++ more)) = Draft.blank types :=
    Draft.leading_blank types
  exact ⟨Draft.leading types draft, hblank ▸ visitAll_leading hvisit, complete_leading hcomplete⟩

/-- A record is decoded to what its values make up. -/
theorem Gives.read {ρ : Type} {layout : Layout ρ} {record : Json.Fields}
    {values : Values layout.types} (h : Gives layout.fields record values) :
    layout.read (.record record) = .ok (layout.build values) := by
  rcases h with ⟨draft, hvisit, hcomplete⟩
  rw [Layout.read, Layout.readFields, hvisit]
  simp only [bind, Except.bind, hcomplete]
  rfl

end GameShelf.Decode
