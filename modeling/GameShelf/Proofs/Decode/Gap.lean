import GameShelf.Proofs.Decode.Found

/-!
# Another value for one field

What a record or a list is decoded to changes in one field only if another value is put where the
value of that field stands.

* `Slot`: the position of a field in a description, with the lens into the values of a record.
* `Gap`: a record or a list with one place left open.
* `Layout.Takes`: what comes of a value wherever it stands for a field.
* `Layout.takes`: it is what the reader of the field makes of it, and nothing else changes.
-/

namespace GameShelf.Decode

variable {α : Type} {types : List Type}

/-! ## Positions -/

/-- The position of a field with values of type `α` in a description. -/
inductive Slot (α : Type) : List Type → Type 1
  | here {types : List Type} : Slot α (α :: types)
  | there {β : Type} {types : List Type} (slot : Slot α types) : Slot α (β :: types)

namespace Slot

/-- How many fields come before. -/
def index {types : List Type} : Slot α types → Nat
  | .here => 0
  | .there slot => slot.index + 1

/-- The field at a position. -/
def field {types : List Type} : Slot α types → FieldList types → Field α
  | .here, fields => fields.1
  | .there slot, fields => slot.field fields.2

/-- The values with another one at a position. -/
def set {types : List Type} : Slot α types → Values types → α → Values types
  | .here, values, value => (value, values.2)
  | .there slot, values, value => (values.1, slot.set values.2 value)

end Slot

/-- The names of a field. -/
def Field.names (field : Field α) : List String :=
  field.name :: field.aliases

theorem Slot.mem_allNames (slot : Slot α types) (fields : FieldList types) {key : String}
    (h : key ∈ (slot.field fields).names) : key ∈ allNames fields := by
  induction slot with
  | here => exact List.mem_append_left _ h
  | there slot ih => exact List.mem_append_right _ (ih fields.2 h)

/-- Where no two fields share a name, a name of a later field is none of the first. -/
theorem Slot.unnamed_first {β : Type} (slot : Slot α types) {fields : FieldList (β :: types)}
    (hnames : (allNames fields).Nodup) {key : String} (hkey : key ∈ (slot.field fields.2).names) :
    fields.1.answersTo key = false := by
  rcases List.nodup_append.mp hnames with ⟨-, -, hapart⟩
  rw [← Bool.not_eq_true]
  intro hnamed
  exact hapart key (Field.answersTo_iff.mp hnamed) key (slot.mem_allNames fields.2 hkey) rfl

/-! ## Records -/

section

variable {field : Field α} {key : String} (before after : Json.Fields) (value : Json)

/-- What a key that names a field leaves for the others. -/
theorem Field.others_named (h : field.answersTo key = true) :
    ((before ++ (key, value) :: after).filter fun entry => !field.answersTo entry.1) =
      (before ++ after).filter fun entry => !field.answersTo entry.1 := by
  rw [List.filter_append, List.filter_append, List.filter_cons, h, Bool.not_true,
    if_neg Bool.false_ne_true]

/-- A key that does not name a field is left for the others. -/
theorem Field.others_unnamed (h : field.answersTo key = false) :
    ((before ++ (key, value) :: after).filter fun entry => !field.answersTo entry.1) =
      (before.filter fun entry => !field.answersTo entry.1) ++
        (key, value) :: after.filter fun entry => !field.answersTo entry.1 := by
  rw [List.filter_append, List.filter_cons, h, Bool.not_false, if_pos rfl]

end

/-- Another value under a key of a field changes what the record gives in that field only. -/
theorem Gives.replace {fields : FieldList types} {values : Values types} (slot : Slot α types)
    {before after : Json.Fields} {key : String} {old new : Json} {read : α}
    (hnames : (allNames fields).Nodup) (hkey : key ∈ (slot.field fields).names)
    (hread : (slot.field fields).read new = .ok read)
    (h : Gives fields (before ++ (key, old) :: after) values) :
    Gives fields (before ++ (key, new) :: after) (slot.set values read) := by
  induction slot generalizing before after with
  | here =>
    have hnamed : fields.1.answersTo key = true := Field.answersTo_iff.mpr hkey
    have hothers := Field.unnamed_of_found hnamed h.found
    refine .cons ((Field.found_named hnamed hothers).trans hread) ?_
    rw [Field.others_named before after new hnamed, ← Field.others_named before after old hnamed]
    exact h.tail
  | there slot ih =>
    have hunnamed := slot.unnamed_first hnames hkey
    rcases fields with ⟨field, others⟩
    rcases List.nodup_append.mp hnames with ⟨-, hnames, -⟩
    have htail : Gives others _ _ := h.tail
    rw [Field.others_unnamed before after old hunnamed] at htail
    refine .cons ?_ ?_
    · rw [Field.found_unnamed hunnamed, ← Field.found_unnamed hunnamed]
      exact h.found
    · rw [Field.others_unnamed before after new hunnamed]
      exact ih hnames hkey hread htail

/-! ## Lists -/

/-- The first item of a list is for the first field. -/
theorem visitItems_cons {short : Nat → DecodeError} {fields : FieldList (α :: types)}
    {position : Nat} {item : Json} {items left : List Json} {values : Values (α :: types)} :
    visitItems short fields position (item :: items) = .ok (values, left) ↔
      fields.1.read item = .ok values.1 ∧
        visitItems short fields.2 (position + 1) items = .ok (values.2, left) := by
  have hvisit : visitItems short fields position (item :: items) =
      (fields.1.read item).bind fun value =>
        (visitItems short fields.2 (position + 1) items).bind fun found =>
          .ok ((value, found.1), found.2) := rfl
  rw [hvisit]
  constructor
  · intro h
    rcases exists_of_bind_eq_ok h with ⟨value, hread, h⟩
    rcases exists_of_bind_eq_ok h with ⟨found, hrest, h⟩
    rcases Prod.mk.inj (Except.ok.inj h) with ⟨rfl, rfl⟩
    exact ⟨hread, hrest⟩
  · rintro ⟨hread, hrest⟩
    rw [hread, hrest]
    rfl

/-- Where a list has ended, its fields have what stands for them after the end. -/
theorem visitItems_nil {short : Nat → DecodeError} {fields : FieldList (α :: types)}
    {position : Nat} {left : List Json} {values : Values (α :: types)} :
    visitItems short fields position [] = .ok (values, left) ↔
      fields.1.afterEnd? = some values.1 ∧
        visitItems short fields.2 (position + 1) [] = .ok (values.2, left) := by
  rcases fields with ⟨field, others⟩
  cases hend : field.afterEnd? with
  | none =>
    simp only [visitItems, hend]
    exact iff_of_false (fun h => by cases h) (by simp)
  | some value =>
    have hvisit : @visitItems short (α :: types) (field, others) position [] =
        (visitItems short others (position + 1) []).bind fun found =>
          .ok ((value, found.1), found.2) := by
      simp only [visitItems, hend]
      rfl
    rw [hvisit]
    constructor
    · intro h
      rcases exists_of_bind_eq_ok h with ⟨found, hrest, heq⟩
      rcases Prod.mk.inj (Except.ok.inj heq) with ⟨rfl, rfl⟩
      exact ⟨rfl, hrest⟩
    · rintro ⟨hvalue, hrest⟩
      obtain rfl := Option.some.inj hvalue
      rw [hrest]
      rfl

/-- Another item for a field changes what the list gives in that field only. -/
theorem visitItems_replace {short : Nat → DecodeError} {fields : FieldList types}
    {values : Values types} (slot : Slot α types) {position : Nat} {before after left : List Json}
    {old new : Json} {read : α} (hindex : before.length = slot.index)
    (hread : (slot.field fields).read new = .ok read)
    (h : visitItems short fields position (before ++ old :: after) = .ok (values, left)) :
    visitItems short fields position (before ++ new :: after) =
      .ok (slot.set values read, left) := by
  induction slot generalizing before position with
  | here =>
    obtain rfl := List.eq_nil_of_length_eq_zero hindex
    exact visitItems_cons.mpr ⟨hread, (visitItems_cons.mp h).2⟩
  | there slot ih =>
    cases before with
    | nil => exact absurd hindex (by simp [Slot.index])
    | cons first before =>
      rcases visitItems_cons.mp h with ⟨hfirst, hrest⟩
      exact visitItems_cons.mpr ⟨hfirst, ih (Nat.succ.inj hindex) hread hrest⟩

/-- A list is decoded to what its items make up, if none is left over. -/
theorem Layout.read_list_iff {ρ : Type} {layout : Layout ρ} {items : List Json} {result : ρ} :
    layout.read (.list items) = .ok result ↔
      ∃ values, visitItems (fun position => .tooFewItems position layout.title layout.types.length)
        layout.fields 0 items = .ok (values, []) ∧ result = layout.build values := by
  have hread : layout.read (.list items) =
      (visitItems (fun position => .tooFewItems position layout.title layout.types.length)
        layout.fields 0 items).bind fun found =>
          if found.2 = [] then .ok (layout.build found.1)
          else .error (.tooManyItems items.length) := rfl
  rw [hread]
  constructor
  · intro h
    rcases exists_of_bind_eq_ok h with ⟨⟨values, left⟩, hvisit, h⟩
    split at h
    · rename_i hleft
      obtain rfl := hleft
      exact ⟨values, hvisit, (Except.ok.inj h).symm⟩
    · exact absurd h (by simp)
  · rintro ⟨values, hvisit, rfl⟩
    rw [hvisit]
    rfl

/-! ## Either form -/

/-- A record or a list with one place left open for a value. -/
inductive Gap where
  | entry (before : Json.Fields) (key : String) (after : Json.Fields)
  | item (before after : List Json)

namespace Gap

/-- The record or the list with a value in the open place. -/
def fill (value : Json) : Gap → Json
  | .entry before key after => .record (before ++ (key, value) :: after)
  | .item before after => .list (before ++ value :: after)

/-- Whether the open place is for a field: under one of its names, or at its index. -/
def IsFor (names : List String) (index : Nat) : Gap → Prop
  | .entry _ key _ => key ∈ names
  | .item before _ => before.length = index

end Gap

/-- Wherever a value stands for a field, given by its names and its index: what is decoded differs
by `change` from what was decoded with any other value there. -/
def Layout.Takes {ρ : Type} (layout : Layout ρ) (names : List String) (index : Nat) (value : Json)
    (change : ρ → ρ) : Prop :=
  ∀ (gap : Gap) (other : Json) (result : ρ), gap.IsFor names index →
    layout.read (gap.fill other) = .ok result → layout.read (gap.fill value) = .ok (change result)

/-- A value stands for a field as what the reader of that field makes of it. -/
theorem Layout.takes {ρ : Type} (layout : Layout ρ) (slot : Slot α layout.types)
    (hnames : (allNames layout.fields).Nodup) {value : Json} {read : α}
    (hread : (slot.field layout.fields).read value = .ok read) {change : ρ → ρ}
    (hchange : ∀ values, layout.build (slot.set values read) = change (layout.build values)) :
    layout.Takes (slot.field layout.fields).names slot.index value change := by
  intro gap other result hgap h
  cases gap with
  | entry before key after =>
    rcases Layout.read_record h with ⟨values, hgives, rfl⟩
    rw [← hchange]
    exact (hgives.replace slot hnames hgap hread).read
  | item before after =>
    rcases Layout.read_list_iff.mp h with ⟨values, hvisit, rfl⟩
    exact Layout.read_list_iff.mpr
      ⟨slot.set values read, visitItems_replace slot hgap hread hvisit, (hchange values).symm⟩

end GameShelf.Decode
