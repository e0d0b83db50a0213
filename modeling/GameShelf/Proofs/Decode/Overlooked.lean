import GameShelf.Proofs.Decode.Gap

/-!
# Keys that no field goes by

What stands under a key that names no field is passed over: it changes neither what is decoded nor
which fault is found. That is so for every record that is read inside of a value, however deep.

* `visitAll_filter`: a record without some of these keys.
* `Slot.isNamed`, `Gap.StandsFor`: where the value of a field stands.
* `Overlooks`: two values between which a reader is to see no difference.
* `Overlooks.insert`, `Overlooks.without`: a key put into a record, and taken out of it.
* `Overlooks.read_eq`: the reader makes the same of both, fault or not.
-/

namespace GameShelf.Decode

variable {α : Type} {types : List Type}

/-! ## Records -/

/-- A key that names no field changes nothing. -/
theorem visit_unnamed {fields : FieldList types} {key : String} (h : names fields key = false)
    (draft : Draft types) (value : Json) : visit fields draft key value = .ok draft := by
  induction types with
  | nil => rfl
  | cons α types ih =>
    rcases fields with ⟨field, others⟩
    rcases draft with ⟨found, rest⟩
    rcases Bool.or_eq_false_iff.mp h with ⟨hfirst, hothers⟩
    rw [visit_eq, hfirst, if_neg Bool.false_ne_true, ih hothers]
    rfl

/-- A record is visited as it is without some of the keys that name no field. -/
theorem visitAll_filter (fields : FieldList types) (draft : Draft types) {record : Json.Fields}
    {keep : String × Json → Bool}
    (hkeep : ∀ entry ∈ record, names fields entry.1 = true → keep entry = true) :
    visitAll fields draft (record.filter keep) = visitAll fields draft record := by
  induction record generalizing draft with
  | nil => rfl
  | cons entry rest ih =>
    rcases List.forall_mem_cons.mp hkeep with ⟨hentry, hrest⟩
    rw [List.filter_cons]
    cases hkept : keep entry with
    | true =>
      rw [if_pos rfl, visitAll, visitAll]
      cases visit fields draft entry.1 entry.2 with
      | error fault => rfl
      | ok next => exact ih next hrest
    | false =>
      have hunnamed : names fields entry.1 = false := by
        rw [← Bool.not_eq_true]
        intro hnamed
        rw [hentry hnamed] at hkept
        exact absurd hkept Bool.noConfusion
      rw [if_neg Bool.false_ne_true, ih draft hrest, visitAll, visit_unnamed hunnamed]
      rfl

/-- Records that differ only under a key that names no field are decoded alike. -/
theorem Layout.read_record_congr {ρ : Type} (layout : Layout ρ) {key : String}
    (hkey : names layout.fields key = false) {record other : Json.Fields}
    (hsame : (record.filter fun entry => entry.1 ≠ key) = other.filter fun entry => entry.1 ≠ key) :
    layout.read (.record record) = layout.read (.record other) := by
  have hwithout (record : Json.Fields) :
      visitAll layout.fields (Draft.blank layout.types)
          (record.filter fun entry => entry.1 ≠ key) =
        visitAll layout.fields (Draft.blank layout.types) record := by
    refine visitAll_filter layout.fields _ fun entry _ hnamed => decide_eq_true ?_
    rintro rfl
    rw [hkey] at hnamed
    exact absurd hnamed Bool.false_ne_true
  have hvisit := hwithout record
  rw [hsame, hwithout other] at hvisit
  rw [Layout.read, Layout.read, Layout.readFields, Layout.readFields, hvisit]

/-! ## Where the value of a field stands -/

/-- Whether what stands under a key is read for the field at a position: the key names that field
and none before it. -/
def Slot.isNamed {types : List Type} : Slot α types → FieldList types → String → Bool
  | .here, fields, key => fields.1.answersTo key
  | .there slot, fields, key => !fields.1.answersTo key && slot.isNamed fields.2 key

/-- Whether the open place is the one for the field at a position: under one of its names in a
record, or at its index in a list. -/
def Gap.StandsFor (slot : Slot α types) (fields : FieldList types) : Gap → Prop
  | .entry _ key _ => slot.isNamed fields key = true
  | .item before _ => before.length = slot.index

section

variable {slot : Slot α types} {fields : FieldList types} {one other : Json}
  (hread : (slot.field fields).read one = (slot.field fields).read other)

include hread

/-- A key of a field is visited alike with values that are read alike. -/
theorem visit_congr {key : String} (hnamed : slot.isNamed fields key = true)
    (draft : Draft types) : visit fields draft key one = visit fields draft key other := by
  induction slot with
  | here =>
    have hfirst : fields.1.answersTo key = true := hnamed
    have hsame : fields.1.read one = fields.1.read other := hread
    rw [visit_eq, visit_eq, if_pos hfirst, if_pos hfirst, hsame]
  | there slot ih =>
    rcases Bool.and_eq_true_iff.mp hnamed with ⟨hfirst, hothers⟩
    rw [Bool.not_eq_true'] at hfirst
    rw [visit_eq, visit_eq, hfirst, if_neg Bool.false_ne_true, if_neg Bool.false_ne_true,
      ih hread hothers draft.2]

/-- The items of a list are visited alike with values that are read alike at the index of a
field. -/
theorem visitItems_congr {short : Nat → DecodeError} {position : Nat} {before after : List Json}
    (hindex : before.length = slot.index) :
    visitItems short fields position (before ++ one :: after) =
      visitItems short fields position (before ++ other :: after) := by
  induction slot generalizing before position with
  | here =>
    obtain rfl := List.eq_nil_of_length_eq_zero hindex
    have hfirst : fields.1.read one = fields.1.read other := hread
    rw [List.nil_append, List.nil_append, visitItems, visitItems, hfirst]
  | there slot ih =>
    cases before with
    | nil => exact absurd hindex (by simp [Slot.index])
    | cons first before =>
      have hrest := @ih fields.2 hread (position + 1) before (Nat.succ.inj hindex)
      rw [List.cons_append, List.cons_append, visitItems, visitItems, hrest]

end

/-- A record or a list is decoded alike with values that are read alike for a field. -/
theorem Layout.read_fill_congr {ρ : Type} (layout : Layout ρ) (slot : Slot α layout.types)
    {gap : Gap} (hgap : gap.StandsFor slot layout.fields) {one other : Json}
    (hread : (slot.field layout.fields).read one = (slot.field layout.fields).read other) :
    layout.read (gap.fill one) = layout.read (gap.fill other) := by
  cases gap with
  | entry before key after =>
    have hvisit (draft : Draft layout.types) :
        visitAll layout.fields draft ((key, one) :: after) =
          visitAll layout.fields draft ((key, other) :: after) := by
      rw [visitAll, visitAll, visit_congr hread hgap]
    simp only [Gap.fill, Layout.read, Layout.readFields, visitAll_append, hvisit]
  | item before after =>
    have hlength : (before ++ one :: after).length = (before ++ other :: after).length := by
      rw [List.length_append, List.length_append, List.length_cons, List.length_cons]
    simp only [Gap.fill, Layout.read, Layout.readItems, visitItems_congr hread hgap, hlength]

/-! ## At any depth -/

/-- Two values that differ only in what stands under one key of one record, where the record is
read as one with no field of that name. -/
inductive Overlooks : {α : Type} → Reader α → Json → Json → Prop where
  /-- The record itself, with nothing, one thing or another under the key. -/
  | key {ρ : Type} (layout : Layout ρ) {key : String} (hkey : names layout.fields key = false)
      {record other : Json.Fields}
      (hsame : (record.filter fun entry => entry.1 ≠ key) =
        other.filter fun entry => entry.1 ≠ key) :
      Overlooks layout.read (.record record) (.record other)
  /-- A record or a list in its place, which has the values for one of its fields. -/
  | field {ρ α : Type} (layout : Layout ρ) (slot : Slot α layout.types) (gap : Gap)
      (hgap : gap.StandsFor slot layout.fields) {one other : Json}
      (h : Overlooks (slot.field layout.fields).read one other) :
      Overlooks layout.read (gap.fill one) (gap.fill other)
  /-- A list, which has the values among its items. -/
  | item {α : Type} {read : Reader α} (before after : List Json) {one other : Json}
      (h : Overlooks read one other) :
      Overlooks (listOf read) (.list (before ++ one :: after)) (.list (before ++ other :: after))
  /-- Values that might have been null. -/
  | nullable {α : Type} {read : Reader α} {one other : Json} (h : Overlooks read one other) :
      Overlooks (nullable read) one other

namespace Overlooks

/-- A record with another key. -/
theorem insert {ρ : Type} (layout : Layout ρ) {key : String}
    (hkey : names layout.fields key = false) (value : Json) (record : Json.Fields) :
    Overlooks layout.read (.record record) (.record (Json.insert key value record)) := by
  refine .key layout hkey ?_
  induction record with
  | nil => simp [Json.insert]
  | cons first rest ih =>
    rcases first with ⟨k, v⟩
    unfold Json.insert
    split
    · simp
    · split
      · rename_i heq
        simp [heq]
      · simp only [List.filter_cons, ih]

/-- A record with one key less. -/
theorem without {ρ : Type} (layout : Layout ρ) {key : String}
    (hkey : names layout.fields key = false) (record : Json.Fields) :
    Overlooks layout.read (.record record)
      (.record (record.filter fun entry => entry.1 ≠ key)) :=
  .key layout hkey (by rw [List.filter_filter]; simp)

variable {read : Reader α} {one other : Json}

/-- Only records, and what holds them, have something to overlook. -/
theorem ne_null (h : Overlooks read one other) : one ≠ .null ∧ other ≠ .null := by
  induction h with
  | key _ _ _ => exact ⟨Json.noConfusion, Json.noConfusion⟩
  | field _ _ gap _ _ _ =>
    cases gap with
    | entry before key after => exact ⟨Json.noConfusion, Json.noConfusion⟩
    | item before after => exact ⟨Json.noConfusion, Json.noConfusion⟩
  | item _ _ _ _ => exact ⟨Json.noConfusion, Json.noConfusion⟩
  | nullable _ ih => exact ih

/-- What a reader overlooks makes no difference to what it reads, nor to the fault that it finds. -/
theorem read_eq (h : Overlooks read one other) : read one = read other := by
  induction h with
  | key layout hkey hsame => exact layout.read_record_congr hkey hsame
  | field layout slot _ hgap _ ih => exact layout.read_fill_congr slot hgap ih
  | item before after _ ih =>
    induction before with
    | nil => simp only [List.nil_append, listOf, items, ih]
    | cons first before ihBefore =>
      simp only [List.cons_append, listOf, items] at ihBefore ⊢
      rw [ihBefore]
  | nullable h ih =>
    rcases h.ne_null with ⟨hone, hother⟩
    rw [nullable_of_ne_null hone, nullable_of_ne_null hother, ih]

end Overlooks

end GameShelf.Decode
