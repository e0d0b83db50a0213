import GameShelf.Proofs.Decode.Gap

/-!
# A value for a field left out

If something is decoded without a field, putting a value in for the field leaves everything else as
it was. The value ends up as what the reader of the field makes of it, and a fault of that reader is
the fault of the whole.

* `visitAll_found`: what is found for a field comes from its names alone.
* `Gives.insert`, `visit_refused`: a value under a name of a field that had none, read or refused.
* `visitItems_last`: an item more at the end of a list.
* `Layout.Fills`: what comes of a value wherever it is put in for a field left out.
* `Layout.fills`: it is what the reader of the field makes of it.
-/

namespace GameShelf.Decode

variable {α : Type} {types : List Type}

/-! ## What was found -/

/-- What was found so far for the field at a position. -/
def Slot.found {types : List Type} : Slot α types → Draft types → Option α
  | .here, draft => draft.1
  | .there slot, draft => slot.found draft.2

theorem Slot.found_blank (slot : Slot α types) : slot.found (Draft.blank types) = none := by
  induction slot with
  | here => rfl
  | there slot ih => exact ih

section

variable {fields : FieldList types} {draft next last : Draft types} (slot : Slot α types)

/-- A key that does not name a field finds nothing for it. -/
theorem visit_found {key : String} {value : Json}
    (hkey : (slot.field fields).answersTo key = false)
    (h : visit fields draft key value = .ok next) : slot.found next = slot.found draft := by
  induction slot with
  | here => exact (visit_others hkey h).1
  | there slot ih =>
    cases hfirst : fields.1.answersTo key with
    | true =>
      rcases visit_names hfirst h with ⟨read, -, rfl⟩
      rfl
    | false => exact ih hkey (visit_others hfirst h).2

theorem visitAll_found {record : Json.Fields}
    (hkeys : ∀ entry ∈ record, (slot.field fields).answersTo entry.1 = false)
    (h : visitAll fields draft record = .ok last) : slot.found last = slot.found draft := by
  induction record generalizing draft with
  | nil =>
    obtain rfl := Except.ok.inj h
    rfl
  | cons entry rest ih =>
    rcases List.forall_mem_cons.mp hkeys with ⟨hentry, hrest⟩
    rcases visitAll_cons h with ⟨next, hvisit, hothers⟩
    rw [ih hrest hothers, visit_found slot hentry hvisit]

/-- A value that the reader of a field refuses ends the record, if nothing was found for the field
before. -/
theorem visit_refused {key : String} {value : Json} {fault : DecodeError}
    (hnames : (allNames fields).Nodup) (hkey : key ∈ (slot.field fields).names)
    (hfound : slot.found draft = none) (hread : (slot.field fields).read value = .error fault) :
    visit fields draft key value = .error fault := by
  -- the key names none of the fields before its own
  induction slot with
  | here =>
    have hnamed : fields.1.answersTo key = true := Field.answersTo_iff.mpr hkey
    have hnone : draft.1 = none := hfound
    have hrefused : fields.1.read value = .error fault := hread
    rw [visit_eq, if_pos hnamed, hnone]
    simp only [hrefused]
    rfl
  | there slot ih =>
    have hunnamed := slot.unnamed_first hnames hkey
    rcases List.nodup_append.mp hnames with ⟨-, hothers, -⟩
    rw [visit_eq, hunnamed, if_neg Bool.false_ne_true, ih hothers hkey hfound hread]
    rfl

end

/-! ## Records -/

/-- A value under a name of a field that had none changes what the record gives in that field
only. -/
theorem Gives.insert {fields : FieldList types} {values : Values types} (slot : Slot α types)
    {before after : Json.Fields} {key : String} {value : Json} {read : α}
    (hnames : (allNames fields).Nodup) (hkey : key ∈ (slot.field fields).names)
    (hothers : ∀ entry ∈ before ++ after, (slot.field fields).answersTo entry.1 = false)
    (hread : (slot.field fields).read value = .ok read)
    (h : Gives fields (before ++ after) values) :
    Gives fields (before ++ (key, value) :: after) (slot.set values read) := by
  induction slot generalizing before after with
  | here =>
    have hnamed : fields.1.answersTo key = true := Field.answersTo_iff.mpr hkey
    refine .cons ((Field.found_named hnamed hothers).trans hread) ?_
    rw [Field.others_named before after value hnamed]
    exact h.tail
  | there slot ih =>
    have hunnamed := slot.unnamed_first hnames hkey
    rcases fields with ⟨field, others⟩
    rcases List.nodup_append.mp hnames with ⟨-, hnames, -⟩
    have htail : Gives others _ _ := h.tail
    rw [List.filter_append] at htail
    refine .cons ?_ ?_
    · rw [Field.found_unnamed hunnamed]
      exact h.found
    · rw [Field.others_unnamed before after value hunnamed]
      refine ih hnames hkey (fun entry hmem => ?_) hread htail
      rw [← List.filter_append] at hmem
      exact hothers entry (List.mem_filter.mp hmem).1

/-- A record with a value under a name of a field that had none. -/
theorem Layout.read_insert {ρ : Type} {layout : Layout ρ} {values : Values layout.types}
    (slot : Slot α layout.types) {before after : Json.Fields} {key : String}
    (hnames : (allNames layout.fields).Nodup) (hkey : key ∈ (slot.field layout.fields).names)
    (hothers : ∀ entry ∈ before ++ after, (slot.field layout.fields).answersTo entry.1 = false)
    (h : Gives layout.fields (before ++ after) values) (value : Json) :
    layout.read (.record (before ++ (key, value) :: after)) =
      ((slot.field layout.fields).read value).map fun read =>
        layout.build (slot.set values read) := by
  cases hread : (slot.field layout.fields).read value with
  | ok read => exact (h.insert slot hnames hkey hothers hread).read
  | error fault =>
    rcases h with ⟨draft, hvisit, -⟩
    rw [visitAll_append] at hvisit
    rcases exists_of_bind_eq_ok hvisit with ⟨middle, hbefore, -⟩
    -- nothing before the key was found for the field
    have hfound : slot.found middle = none := by
      rw [visitAll_found slot (List.forall_mem_append.mp hothers).1 hbefore, slot.found_blank]
    rw [Layout.read, Layout.readFields, visitAll_append, hbefore]
    simp only [Except.bind, visitAll, visit_refused slot hnames hkey hfound hread, bind]
    rfl

/-! ## Lists -/

/-- A list that ends before a field may go on with an item for it. -/
theorem visitItems_last {short : Nat → DecodeError} {fields : FieldList types}
    {values : Values types} (slot : Slot α types) {position : Nat} {before : List Json}
    (hindex : before.length = slot.index)
    (h : visitItems short fields position before = .ok (values, [])) (value : Json) :
    visitItems short fields position (before ++ [value]) =
      ((slot.field fields).read value).map fun read => (slot.set values read, []) := by
  induction slot generalizing before position with
  | here =>
    obtain rfl := List.eq_nil_of_length_eq_zero hindex
    have hvisit : visitItems short fields position [value] =
        (fields.1.read value).bind fun read =>
          (visitItems short fields.2 (position + 1) []).bind fun found =>
            .ok ((read, found.1), found.2) := rfl
    rw [List.nil_append, hvisit, (visitItems_nil.mp h).2, map_eq_bind]
    rfl
  | there slot ih =>
    cases before with
    | nil => exact absurd hindex (by simp [Slot.index])
    | cons first before =>
      rcases visitItems_cons.mp h with ⟨hfirst, hrest⟩
      have hvisit : visitItems short fields position (first :: (before ++ [value])) =
          (fields.1.read first).bind fun read =>
            (visitItems short fields.2 (position + 1) (before ++ [value])).bind fun found =>
              .ok ((read, found.1), found.2) := rfl
      have hfield : (Slot.there slot).field fields = slot.field fields.2 := rfl
      rw [List.cons_append, hvisit, hfirst, ih (Nat.succ.inj hindex) hrest, hfield]
      cases (slot.field fields.2).read value with
      | error fault => rfl
      | ok read => rfl

/-! ## Either form -/

namespace Gap

/-- The record or the list with nothing in the open place. -/
def bare : Gap → Json
  | .entry before _ after => .record (before ++ after)
  | .item before after => .list (before ++ after)

/-- Whether the open place is for a field that is left out: nothing else in a record is under a name
of it, and a list ends before it. -/
def IsLeftOut (names : List String) (index : Nat) : Gap → Prop
  | .entry before key after => key ∈ names ∧ ∀ entry ∈ before ++ after, entry.1 ∉ names
  | .item before after => before.length = index ∧ after = []

end Gap

/-- Wherever something is decoded without a field, given by its names and its index: what is decoded
once a value has been put in for it. -/
def Layout.Fills {ρ : Type} (layout : Layout ρ) (names : List String) (index : Nat) (value : Json)
    (outcome : ρ → Except DecodeError ρ) : Prop :=
  ∀ (gap : Gap) (result : ρ), gap.IsLeftOut names index → layout.read gap.bare = .ok result →
    layout.read (gap.fill value) = outcome result

/-- A value is put in for a field as what the reader of that field makes of it. -/
theorem Layout.fills {ρ : Type} (layout : Layout ρ) (slot : Slot α layout.types)
    (hnames : (allNames layout.fields).Nodup) (value : Json) {change : α → ρ → ρ}
    (hchange : ∀ read values, layout.build (slot.set values read) =
      change read (layout.build values)) :
    layout.Fills (slot.field layout.fields).names slot.index value fun result =>
      ((slot.field layout.fields).read value).map fun read => change read result := by
  intro gap result hgap h
  cases gap with
  | entry before key after =>
    rcases hgap with ⟨hkey, hothers⟩
    have hunnamed : ∀ entry ∈ before ++ after,
        (slot.field layout.fields).answersTo entry.1 = false := by
      intro entry hmem
      rw [← Bool.not_eq_true]
      intro hnamed
      exact hothers entry hmem (Field.answersTo_iff.mp hnamed)
    rcases Layout.read_record h with ⟨values, hgives, rfl⟩
    simp only [← hchange]
    exact Layout.read_insert slot hnames hkey hunnamed hgives value
  | item before after =>
    rcases hgap with ⟨hindex, rfl⟩
    rw [Gap.bare, List.append_nil] at h
    rcases Layout.read_list_iff.mp h with ⟨values, hvisit, rfl⟩
    have hlast := visitItems_last slot hindex hvisit value
    simp only [← hchange]
    cases hread : (slot.field layout.fields).read value with
    | ok read =>
      rw [hread] at hlast
      exact Layout.read_list_iff.mpr ⟨slot.set values read, hlast, rfl⟩
    | error fault =>
      rw [hread] at hlast
      rw [Gap.fill, Layout.read, Layout.readItems, hlast]
      rfl

end GameShelf.Decode
