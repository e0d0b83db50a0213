import GameShelf.Proofs.Decode.Leading

/-!
# Decoding field by field

A record can be decoded in the order in which its fields are declared: each field takes what stands
under its names, wherever that is in the record.

* `Field.found`: what a record has for a field, with `Field.read_or_absent` for where it is from.
* `Finds`: what it has for all fields of a description; with names of their own, `Finds.gives` and
  `Gives.finds`.
* `Gives.cons`: a field after the other, each with what those before it left; `Gives.found` and
  `Gives.tail` take this apart again.
* `Layout.read_of_finds`: where no two fields share a name, a record is decoded to what it has for
  them.
-/

namespace GameShelf.Decode

variable {α : Type} {types : List Type}

/-- What a record has for a field: the value under one of its names, or what stands for it when it
is left out. -/
def Field.found (field : Field α) (record : Json.Fields) : Except DecodeError α :=
  match record.filter fun entry => field.answersTo entry.1 with
  | [] => field.whenAbsent
  | [(_, value)] => field.read value
  | _ => .error (.duplicateField field.name)

/-- What a record has for a field was read from some value, or stands for a field left out. -/
theorem Field.read_or_absent {field : Field α} {record : Json.Fields} {result : α}
    (h : field.found record = .ok result) :
    (∃ value, field.read value = .ok result) ∨ field.whenAbsent = .ok result := by
  unfold Field.found at h
  split at h
  · exact .inr h
  · exact .inl ⟨_, h⟩
  · exact absurd h (by simp)

/-- A field is read from the one value that the record has under its names. -/
theorem Field.found_of_filter {field : Field α} {record : Json.Fields} {key : String}
    {value : Json} (h : (record.filter fun entry => field.answersTo entry.1) = [(key, value)]) :
    field.found record = field.read value := by
  unfold Field.found
  rw [h]

section

variable {field : Field α} {before after : Json.Fields} {key : String} {value : Json}

/-- A key that does not name a field is passed over. -/
theorem Field.found_unnamed (h : field.answersTo key = false) :
    field.found (before ++ (key, value) :: after) = field.found (before ++ after) := by
  have hsame : ((before ++ (key, value) :: after).filter fun entry => field.answersTo entry.1) =
      (before ++ after).filter fun entry => field.answersTo entry.1 := by
    rw [List.filter_append, List.filter_append, List.filter_cons, h, if_neg Bool.false_ne_true]
  unfold Field.found
  rw [hsame]

/-- A field is read from the one value under its names. -/
theorem Field.found_named (h : field.answersTo key = true)
    (hothers : ∀ entry ∈ before ++ after, field.answersTo entry.1 = false) :
    field.found (before ++ (key, value) :: after) = field.read value := by
  have hnone (part : Json.Fields) (hpart : ∀ entry ∈ part, field.answersTo entry.1 = false) :
      (part.filter fun entry => field.answersTo entry.1) = [] :=
    List.filter_eq_nil_iff.mpr fun entry hmem => Bool.eq_false_iff.mp (hpart entry hmem)
  rcases List.forall_mem_append.mp hothers with ⟨hbefore, hafter⟩
  have hone : ((before ++ (key, value) :: after).filter fun entry => field.answersTo entry.1) =
      [(key, value)] := by
    rw [List.filter_append, List.filter_cons, if_pos h, hnone before hbefore, hnone after hafter]
    rfl
  exact Field.found_of_filter hone

/-- Where there is something for a field under one key, no other key names it. -/
theorem Field.unnamed_of_found {result : α} (h : field.answersTo key = true)
    (hfound : field.found (before ++ (key, value) :: after) = .ok result) :
    ∀ entry ∈ before ++ after, field.answersTo entry.1 = false := by
  have hnone : (before ++ after).filter (fun entry => field.answersTo entry.1) = [] := by
    rw [List.filter_append, List.append_eq_nil_iff, ← List.length_eq_zero_iff,
      ← List.length_eq_zero_iff]
    unfold Field.found at hfound
    split at hfound
    · rename_i hnil
      rw [List.filter_append, List.filter_cons, if_pos h] at hnil
      exact absurd hnil (by simp)
    · rename_i hone
      have hlength := congrArg List.length hone
      rw [List.filter_append, List.filter_cons, if_pos h, List.length_append, List.length_cons,
        List.length_singleton] at hlength
      omega
    · exact absurd hfound (by simp)
  exact fun entry hmem => Bool.eq_false_iff.mpr (List.filter_eq_nil_iff.mp hnone entry hmem)

end

section

variable {fields : FieldList (α :: types)} {found : Option α} {rest last : Draft types}
  {record : Json.Fields}

/-- Keys that do not name the first field are for the others. -/
theorem visitAll_unnamed (h : ∀ entry ∈ record, fields.1.answersTo entry.1 = false)
    (hrest : visitAll fields.2 rest record = .ok last) :
    visitAll fields (found, rest) record = .ok (found, last) := by
  induction record generalizing rest with
  | nil =>
    obtain rfl := Except.ok.inj hrest
    rfl
  | cons entry record ih =>
    rcases List.forall_mem_cons.mp h with ⟨hentry, hothers⟩
    rcases visitAll_cons hrest with ⟨next, hnext, hlast⟩
    have hvisit : visit fields (found, rest) entry.1 entry.2 = .ok (found, next) := by
      rw [visit_eq, hentry, if_neg Bool.false_ne_true, hnext]
      rfl
    rw [visitAll, hvisit]
    exact ih hothers hlast

/-- The one key that names the first field gives it its value. -/
theorem visitAll_named {key : String} {value : Json} {read : α}
    (h : (record.filter fun entry => fields.1.answersTo entry.1) = [(key, value)])
    (hread : fields.1.read value = .ok read)
    (hrest : visitAll fields.2 rest (record.filter fun entry => !fields.1.answersTo entry.1) =
      .ok last) :
    visitAll fields (none, rest) record = .ok (some read, last) := by
  rcases List.filter_eq_cons_iff.mp h with ⟨before, after, rfl, hbefore, hkey, hafter⟩
  have hbefore : ∀ entry ∈ before, fields.1.answersTo entry.1 = false := fun entry hmem =>
    Bool.eq_false_iff.mpr (hbefore entry hmem)
  have hafter : ∀ entry ∈ after, fields.1.answersTo entry.1 = false := fun entry hmem =>
    Bool.eq_false_iff.mpr (List.filter_eq_nil_iff.mp hafter entry hmem)
  -- the others see what stands before and after it
  have hothers : ((before ++ (key, value) :: after).filter
      fun entry => !fields.1.answersTo entry.1) = before ++ after := by
    rw [List.filter_append, List.filter_cons, hkey,
      List.filter_eq_self.mpr fun entry hmem => by rw [hbefore entry hmem]; rfl,
      List.filter_eq_self.mpr fun entry hmem => by rw [hafter entry hmem]; rfl]
    rfl
  rw [hothers, visitAll_append] at hrest
  rcases exists_of_bind_eq_ok hrest with ⟨middle, hmiddle, hlast⟩
  have hvisit : visit fields (none, middle) key value = .ok (some read, middle) := by
    rw [visit_eq, if_pos hkey]
    simp only [hread]
    rfl
  rw [visitAll_append, visitAll_unnamed hbefore hmiddle]
  simp only [Except.bind, visitAll, hvisit, bind]
  exact visitAll_unnamed hafter hlast

/-- After the first field has been found, no key names it. -/
theorem unnamed_after_found {draft last : Draft (α :: types)} {read : α}
    (hfound : draft.1 = some read) (h : visitAll fields draft record = .ok last) :
    ∀ entry ∈ record, fields.1.answersTo entry.1 = false := by
  induction record generalizing draft with
  | nil => exact fun _ hmem => absurd hmem List.not_mem_nil
  | cons first others ih =>
    rcases visitAll_cons h with ⟨next, hvisit, hothers⟩
    cases hkey : fields.1.answersTo first.1 with
    | true =>
      rw [visit_eq, if_pos hkey, hfound] at hvisit
      exact absurd hvisit (by simp)
    | false =>
      have hnext := (visit_others hkey hvisit).1.trans hfound
      exact List.forall_mem_cons.mpr ⟨hkey, ih hnext hothers⟩

/-- What is found for the first field comes to what the record has for it. -/
theorem settle_eq_found {last : Draft (α :: types)}
    (h : visitAll fields (none, rest) record = .ok last) :
    fields.1.settle last.1 = fields.1.found record := by
  induction record generalizing rest with
  | nil =>
    obtain rfl := Except.ok.inj h
    rfl
  | cons first others ih =>
    rcases visitAll_cons h with ⟨next, hvisit, hothers⟩
    cases hkey : fields.1.answersTo first.1 with
    | true =>
      rcases visit_names hkey hvisit with ⟨read, hread, rfl⟩
      have hfound : fields.1.found ([] ++ (first.1, first.2) :: others) = fields.1.read first.2 :=
        Field.found_named hkey (unnamed_after_found rfl hothers)
      rw [visitAll_keeps rfl hothers]
      exact (hfound.trans hread).symm
    | false =>
      rcases next with ⟨found, next⟩
      obtain rfl : found = none := (visit_others hkey hvisit).1
      have hfound : fields.1.found ([] ++ (first.1, first.2) :: others) =
          fields.1.found ([] ++ others) := Field.found_unnamed hkey
      exact (ih hothers).trans hfound.symm

end

namespace Gives

/-- Where there are no fields, nothing is asked for. -/
theorem nil (record : Json.Fields) : @Gives [] () record () := by
  refine ⟨(), ?_, rfl⟩
  induction record with
  | nil => rfl
  | cons entry rest ih => exact ih

/-- A record gives a field what it has for it, and the others what the rest has for them. -/
theorem cons {fields : FieldList (α :: types)} {record : Json.Fields} {value : α}
    {values : Values types} (h : fields.1.found record = .ok value)
    (hrest : Gives fields.2 (record.filter fun entry => !fields.1.answersTo entry.1) values) :
    Gives fields record (value, values) := by
  rcases hrest with ⟨draft, hvisit, hcomplete⟩
  unfold Field.found at h
  split at h
  · rename_i hnone
    have hunnamed := List.filter_eq_nil_iff.mp hnone
    have hothers : (record.filter fun entry => !fields.1.answersTo entry.1) = record :=
      List.filter_eq_self.mpr fun entry hmem => by
        rw [Bool.eq_false_iff.mpr (hunnamed entry hmem)]
        rfl
    rw [hothers] at hvisit
    refine ⟨(none, draft), visitAll_unnamed (fun entry hmem =>
      Bool.eq_false_iff.mpr (hunnamed entry hmem)) hvisit, ?_⟩
    have hvalue : complete fields (none, draft) =
        fields.1.whenAbsent.bind fun value => (complete fields.2 draft).bind fun values =>
          .ok (value, values) := rfl
    rw [hvalue, h, Except.bind, hcomplete]
    rfl
  · rename_i key value hone
    refine ⟨(some _, draft), visitAll_named hone h hvisit, ?_⟩
    rw [complete_eq]
    simp only [hcomplete]
    rfl
  · exact absurd h (by simp)

/-- The first value is what the record has for the first field. -/
theorem found {fields : FieldList (α :: types)} {record : Json.Fields}
    {values : Values (α :: types)} (h : Gives fields record values) :
    fields.1.found record = .ok values.1 := by
  rcases h with ⟨draft, hvisit, hcomplete⟩
  rw [complete_eq] at hcomplete
  rw [← settle_eq_found hvisit]
  exact (complete_rest hcomplete).1

end Gives

/-! ## Fields with names of their own -/

/-- All names of fields. -/
def allNames : {types : List Type} → FieldList types → List String
  | [], _ => []
  | _ :: _, (field, others) => field.name :: field.aliases ++ allNames others

/-- What a record has for each field. -/
def Finds : {types : List Type} → FieldList types → Json.Fields → Values types → Prop
  | [], _, _, _ => True
  | _ :: _, (field, others), record, (value, values) =>
    field.found record = .ok value ∧ Finds others record values

theorem Field.answersTo_iff {field : Field α} {key : String} :
    field.answersTo key = true ↔ key ∈ field.name :: field.aliases := by
  rw [Field.answersTo, Bool.or_eq_true, beq_iff_eq, List.contains_iff_mem, List.mem_cons]

/-- What is not under the names of a field does not matter for it. -/
theorem Field.found_filter {field : Field α} {record : Json.Fields} {keep : String × Json → Bool}
    (h : ∀ entry ∈ record, field.answersTo entry.1 = true → keep entry = true) :
    field.found (record.filter keep) = field.found record := by
  have hsame : ((record.filter keep).filter fun entry => field.answersTo entry.1) =
      record.filter fun entry => field.answersTo entry.1 := by
    rw [List.filter_filter]
    apply List.filter_congr
    intro entry hmem
    cases hkey : field.answersTo entry.1 with
    | false => rfl
    | true => rw [h entry hmem hkey, Bool.and_true]
  unfold Field.found
  rw [hsame]

/-- Nor for all fields what is under no name of theirs. -/
theorem finds_filter_iff {fields : FieldList types} {record : Json.Fields} {values : Values types}
    {keep : String × Json → Bool}
    (hkeep : ∀ entry ∈ record, entry.1 ∈ allNames fields → keep entry = true) :
    Finds fields (record.filter keep) values ↔ Finds fields record values := by
  induction types with
  | nil => exact Iff.rfl
  | cons α types ih =>
    rcases fields with ⟨field, others⟩
    rcases values with ⟨value, values⟩
    have hfield : field.found (record.filter keep) = field.found record :=
      Field.found_filter fun entry hmem hkey =>
        hkeep entry hmem (List.mem_append_left _ (Field.answersTo_iff.mp hkey))
    have hothers : Finds others (record.filter keep) values ↔ Finds others record values :=
      ih fun entry hmem hname => hkeep entry hmem (List.mem_append_right _ hname)
    exact and_congr (by rw [hfield]) hothers

/-- The order of a record does not matter for a field that it has at most once. -/
theorem Field.found_perm {field : Field α} {record other : Json.Fields} (hperm : record.Perm other)
    {value : α} (h : field.found record = .ok value) : field.found other = .ok value := by
  have hsame := hperm.filter fun entry => field.answersTo entry.1
  unfold found at h ⊢
  split at h
  · rename_i hnone
    rw [hnone] at hsame
    rw [List.nil_perm.mp hsame]
    exact h
  · rename_i key value hone
    rw [hone] at hsame
    rw [← List.singleton_perm.mp hsame]
    exact h
  · exact absurd h (by simp)

theorem Finds.perm {fields : FieldList types} {record other : Json.Fields} {values : Values types}
    (hperm : record.Perm other) (h : Finds fields record values) : Finds fields other values := by
  induction types with
  | nil => trivial
  | cons α types ih =>
    rcases fields with ⟨field, others⟩
    rcases values with ⟨value, values⟩
    rcases h with ⟨hfound, hothers⟩
    exact ⟨Field.found_perm hperm hfound, ih hothers⟩

/-- Where no two fields share a name, the first one leaves everything for the others. -/
theorem finds_others_iff {field : Field α} {others : FieldList types} {record : Json.Fields}
    {values : Values types}
    (hnames : (@allNames (α :: types) (field, others)).Nodup) :
    Finds others (record.filter fun entry => !field.answersTo entry.1) values ↔
      Finds others record values := by
  rcases List.nodup_append.mp hnames with ⟨-, -, hapart⟩
  refine finds_filter_iff fun entry hmem hname => ?_
  rw [Bool.not_eq_true', Bool.eq_false_iff]
  intro hkey
  exact hapart entry.1 (Field.answersTo_iff.mp hkey) entry.1 hname rfl

/-- Where no two fields share a name, a record gives what it has for them. -/
theorem Finds.gives {fields : FieldList types} {record : Json.Fields} {values : Values types}
    (hnames : (allNames fields).Nodup) (h : Finds fields record values) :
    Gives fields record values := by
  induction types generalizing record with
  | nil => exact .nil record
  | cons α types ih =>
    rcases fields with ⟨field, others⟩
    rcases values with ⟨value, values⟩
    rcases h with ⟨hfound, hothers⟩
    rcases List.nodup_append.mp hnames with ⟨-, hrest, -⟩
    exact .cons hfound (ih hrest ((finds_others_iff hnames).mpr hothers))

/-- What it gives is what it has for them. -/
theorem Gives.finds {fields : FieldList types} {record : Json.Fields} {values : Values types}
    (hnames : (allNames fields).Nodup) (h : Gives fields record values) :
    Finds fields record values := by
  induction types generalizing record with
  | nil => trivial
  | cons α types ih =>
    rcases fields with ⟨field, others⟩
    rcases values with ⟨value, values⟩
    rcases List.nodup_append.mp hnames with ⟨-, hrest, -⟩
    exact ⟨h.found, (finds_others_iff hnames).mp (ih hrest h.tail)⟩

/-- A record is decoded to what it has for the fields of its description. -/
theorem Layout.read_of_finds {ρ : Type} (layout : Layout ρ) {record : Json.Fields}
    (values : Values layout.types) (hnames : (allNames layout.fields).Nodup)
    (h : Finds layout.fields record values) :
    layout.read (.record record) = .ok (layout.build values) :=
  (h.gives hnames).read

/-- What is there is read, where it might have been missing too. -/
theorem nullable_of_ne_null {read : Reader α} {value : Json} (hnull : value ≠ .null) :
    nullable read value = (read value).map some := by
  unfold nullable
  split
  · exact absurd rfl hnull
  · rfl

theorem nullable_of_ok {read : Reader α} {value : Json} {result : α} (hnull : value ≠ .null)
    (h : read value = .ok result) : nullable read value = .ok (some result) := by
  rw [nullable_of_ne_null hnull, h]
  rfl

end GameShelf.Decode
