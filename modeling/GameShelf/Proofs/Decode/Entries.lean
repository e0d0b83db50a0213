import GameShelf.Proofs.Decode.Gap

/-!
# What a record or a list has for a field

Records may come as lists of their values. Such a list has its items for the fields in order of
declaration, and so both forms can be looked at in the same way: as entries, each under the name of
a field.

* `Layout.entries`: the entries of a record or of a list in its place.
* `Layout.finds_of_read`: what is decoded has, for each field, what the entries have for it.
* `Json.given?`: what entries give under a key. Nothing and null give nothing.
* `required_of_found`, `given_of_found`: a field that must be there is read from an entry under its
  name, and an optional one comes to what is given under its name.
-/

namespace GameShelf

/-! ## Either form -/

namespace Decode

/-- The first name of each field. -/
def firstNames : {types : List Type} → FieldList types → List String
  | [], _ => []
  | _ :: _, (field, others) => field.name :: firstNames others

/-- The entries of a record, or of a list in its place. -/
def Layout.entries {ρ : Type} (layout : Layout ρ) : Json → Json.Fields
  | .record fields => fields
  | .list items => (firstNames layout.fields).zip items
  | _ => []

section

variable {α : Type} {types : List Type}

theorem mem_allNames_of_firstNames {fields : FieldList types} {key : String}
    (h : key ∈ firstNames fields) : key ∈ allNames fields := by
  induction types with
  | nil => exact h
  | cons α types ih =>
    rcases fields with ⟨field, others⟩
    rcases List.mem_cons.mp h with rfl | hothers
    · exact List.mem_append_left _ List.mem_cons_self
    · exact List.mem_append_right _ (ih hothers)

/-- A value that stands for a field also where a list ends before it stands for it in a record. -/
theorem Field.found_of_afterEnd {field : Field α} {value : α} (h : field.afterEnd? = some value) :
    field.found [] = .ok value := by
  unfold Field.afterEnd? at h
  split at h
  · rename_i default hdefault
    obtain rfl := Option.some.inj h
    simp only [Field.found, List.filter_nil, Field.whenAbsent, hdefault]
  · exact absurd h (by simp)

/-- The items of a list are read as they would be under the names of their fields. -/
theorem finds_of_visitItems {short : Nat → DecodeError} {fields : FieldList types}
    {position : Nat} {items left : List Json} {values : Values types}
    (hnames : (allNames fields).Nodup)
    (h : visitItems short fields position items = .ok (values, left)) :
    Finds fields ((firstNames fields).zip items) values := by
  induction types generalizing position items with
  | nil => trivial
  | cons α types ih =>
    rcases fields with ⟨field, others⟩
    rcases values with ⟨value, values⟩
    rcases List.nodup_append.mp hnames with ⟨-, hrest, hapart⟩
    cases items with
    | nil =>
      rcases visitItems_nil.mp h with ⟨hend, hothers⟩
      have hfinds := ih hrest hothers
      rw [List.zip_nil_right] at hfinds
      exact ⟨Field.found_of_afterEnd hend, hfinds⟩
    | cons item items =>
      rcases visitItems_cons.mp h with ⟨hread, hothers⟩
      have hfirst : field.answersTo field.name = true := Field.answersTo_iff.mpr List.mem_cons_self
      -- the names of the others are not names of this field
      have hunnamed : ∀ entry ∈ [] ++ (firstNames others).zip items,
          field.answersTo entry.1 = false := by
        intro entry hmem
        have hname := mem_allNames_of_firstNames (List.of_mem_zip hmem).1
        rw [Bool.eq_false_iff]
        intro hkey
        exact hapart entry.1 (Field.answersTo_iff.mp hkey) entry.1 hname rfl
      have hfilter := Field.others_named [] ((firstNames others).zip items) item hfirst
      rw [List.nil_append, List.nil_append] at hfilter
      have hfinds := ih hrest hothers
      rw [← finds_others_iff hnames, ← hfilter, finds_others_iff hnames] at hfinds
      exact ⟨(Field.found_named hfirst hunnamed).trans hread, hfinds⟩

end

/-- What is decoded is made up of what the entries have for each field. -/
theorem Layout.finds_of_read {ρ : Type} {layout : Layout ρ} {body : Json} {result : ρ}
    (hnames : (allNames layout.fields).Nodup) (h : layout.read body = .ok result) :
    ∃ values, Finds layout.fields (layout.entries body) values ∧ result = layout.build values := by
  cases body with
  | record fields =>
    rcases Layout.read_record h with ⟨values, hgives, rfl⟩
    exact ⟨values, hgives.finds hnames, rfl⟩
  | list items =>
    rcases Layout.read_list_iff.mp h with ⟨values, hvisit, rfl⟩
    exact ⟨values, finds_of_visitItems hnames hvisit, rfl⟩
  | null | flag | number | text => exact absurd h (by simp [Layout.read, refuse])

end Decode

/-! ## What is given -/

/-- What entries give under a key: the value there, unless it is null. -/
def Json.given? (entries : Fields) (key : String) : Option Json :=
  match field? entries key with
  | some .null => none
  | other => other

theorem Json.given?_ne_null {entries : Fields} {key : String} {value : Json}
    (h : given? entries key = some value) : value ≠ .null := by
  unfold given? at h
  split at h
  · cases h
  · rename_i hnull
    rintro rfl
    exact hnull h

namespace Decode

theorem field?_eq_head? (entries : Json.Fields) (key : String) :
    Json.field? entries key = (entries.filter fun entry => entry.1 == key).head?.map Prod.snd := by
  induction entries with
  | nil => rfl
  | cons entry rest ih =>
    rcases entry with ⟨other, value⟩
    rw [Json.field?, List.lookup_cons, List.filter_cons, BEq.comm (a := key)]
    cases other == key with
    | true => rfl
    | false => exact ih

/-- Only a text is read as one. -/
theorem text_eq_ok {value : Json} {read : String} (h : text value = .ok read) :
    value = .text read := by
  cases value with
  | text => exact congrArg Json.text (Except.ok.inj h)
  | null | flag | number | list | record => exact absurd h (by simp [text, refuse])

variable {α : Type} {name : String} {read : Reader α}

theorem optional_answersTo (key : String) : (optional name read).answersTo key = (key == name) :=
  Bool.or_false _

/-- A field that must be there is read from an entry under its name. -/
theorem required_of_found {entries : Json.Fields} {found : α}
    (h : (required name read).found entries = .ok found) :
    ∃ value, (name, value) ∈ entries ∧ read value = .ok found := by
  unfold Field.found at h
  split at h
  · exact absurd h (by simp [Field.whenAbsent, required])
  · rename_i key value hone
    have hmem : (key, value) ∈ entries.filter fun entry => (required name read).answersTo entry.1 :=
      hone ▸ List.mem_singleton_self _
    rcases List.mem_filter.mp hmem with ⟨hentry, hkey⟩
    obtain rfl : key = name := List.mem_singleton.mp (Field.answersTo_iff.mp hkey)
    exact ⟨value, hentry, h⟩
  · exact absurd h (by simp)

/-- An optional field comes to what is given under its name. -/
theorem given_of_found {entries : Json.Fields} {found : Option α}
    (h : (optional name read).found entries = .ok found) :
    match Json.given? entries name with
    | some value => ∃ a, read value = .ok a ∧ found = some a
    | none => found = none := by
  have hfilter : (entries.filter fun entry => (optional name read).answersTo entry.1) =
      entries.filter fun entry => entry.1 == name := by simp only [optional_answersTo]
  rw [Json.given?, field?_eq_head?]
  rw [Field.found, hfilter] at h
  cases hentries : entries.filter fun entry => entry.1 == name with
  | nil =>
    rw [hentries] at h
    exact (Except.ok.inj h).symm
  | cons entry rest =>
    rw [hentries] at h
    cases rest with
    | cons _ _ => exact absurd h (by simp)
    | nil =>
      rcases entry with ⟨key, value⟩
      cases value with
      | null => exact (Except.ok.inj h).symm
      | flag | number | text | list | record =>
        rcases exists_of_map_eq_ok h with ⟨a, hread, rfl⟩
        exact ⟨a, hread, rfl⟩

end Decode

end GameShelf
