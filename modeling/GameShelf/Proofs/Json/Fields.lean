import Mathlib.Data.List.Nodup
import Mathlib.Data.String.Basic
import GameShelf.Json.KeyCase
import GameShelf.Proofs.Json.Reread

/-!
# Sorted fields

The fields of a record are sorted, and hold what was put into them. A value whose records are
sorted is its own canonical form, so that its text is read as itself but for the doubles.

* `inductionOn`: values by induction on their items and fields.
* `mem_insert`, `mem_ofFields_iff`: what a record holds; of the fields with one key, the last.
* `keysAscend_ofFields`, `ofFields_of_keysAscend`: a record is sorted, and stays as it is if it
  was.
* `Fits`: sorted, and not too deep.
* `parse?_write`: the text of a value that fits is read as the value with its numbers read anew.
-/

namespace GameShelf.Json

/-! ## Values by induction -/

/-- What holds of a list if it holds of its items, and of a record if it holds of the values of its
fields, holds of every value. -/
@[elab_as_elim]
theorem inductionOn {motive : Json → Prop} (value : Json) (null : motive .null)
    (flag : ∀ b, motive (.flag b)) (number : ∀ n, motive (.number n))
    (text : ∀ t, motive (.text t))
    (list : ∀ items, (∀ item ∈ items, motive item) → motive (.list items))
    (record : ∀ fields, (∀ field ∈ fields, motive field.2) → motive (.record fields)) :
    motive value :=
  @Json.rec motive (fun items => ∀ item ∈ items, motive item)
    (fun fields => ∀ field ∈ fields, motive field.2) (fun field => motive field.2)
    null flag number text list record
    (fun _ hmem => absurd hmem List.not_mem_nil)
    (fun _ _ hitem hrest => List.forall_mem_cons.mpr ⟨hitem, hrest⟩)
    (fun _ hmem => absurd hmem List.not_mem_nil)
    (fun _ _ hfield hrest => List.forall_mem_cons.mpr ⟨hfield, hrest⟩)
    (fun _ _ hvalue => hvalue) value

/-! ## Putting fields in place -/

theorem keysAscend_cons {key : String} {value : Json} {fields : Fields} :
    KeysAscend ((key, value) :: fields) ↔
      (∀ field ∈ fields, key < field.1) ∧ KeysAscend fields := by
  rw [KeysAscend, List.map_cons, List.pairwise_cons, List.forall_mem_map]
  rfl

/-- What a record holds after a field was put in its place. -/
theorem mem_insert {key : String} {value : Json} {fields : Fields} (h : KeysAscend fields)
    {field : String × Json} :
    field ∈ insert key value fields ↔ field = (key, value) ∨ field.1 ≠ key ∧ field ∈ fields := by
  induction fields with
  | nil => simp [insert]
  | cons first rest ih =>
    rcases first with ⟨k, v⟩
    rcases keysAscend_cons.mp h with ⟨hfirst, hrest⟩
    unfold insert
    split
    · -- all keys are greater than the new one
      rename_i hlt
      have hother : ∀ other ∈ (k, v) :: rest, other.1 ≠ key := by
        intro other hmem
        rcases List.mem_cons.mp hmem with rfl | hmem
        · exact (ne_of_lt hlt).symm
        · exact (ne_of_lt (lt_trans hlt (hfirst other hmem))).symm
      rw [List.mem_cons]
      constructor
      · rintro (rfl | hmem)
        · exact .inl rfl
        · exact .inr ⟨hother field hmem, hmem⟩
      · rintro (rfl | ⟨-, hmem⟩)
        · exact .inl rfl
        · exact .inr hmem
    · split
      · -- the first field gives way
        rename_i heq
        subst heq
        have hother : ∀ other ∈ rest, other.1 ≠ key :=
          fun other hmem => (ne_of_lt (hfirst other hmem)).symm
        rw [List.mem_cons, List.mem_cons]
        constructor
        · rintro (rfl | hmem)
          · exact .inl rfl
          · exact .inr ⟨hother field hmem, .inr hmem⟩
        · rintro (rfl | ⟨hne, rfl | hmem⟩)
          · exact .inl rfl
          · exact absurd rfl hne
          · exact .inr hmem
      · -- the new field goes among those after the first
        rename_i hne
        rw [List.mem_cons, ih hrest, List.mem_cons]
        constructor
        · rintro (rfl | rfl | ⟨hkey, hmem⟩)
          · exact .inr ⟨fun heq => hne heq.symm, .inl rfl⟩
          · exact .inl rfl
          · exact .inr ⟨hkey, .inr hmem⟩
        · rintro (rfl | ⟨hkey, rfl | hmem⟩)
          · exact .inr (.inl rfl)
          · exact .inl rfl
          · exact .inr (.inr ⟨hkey, hmem⟩)

/-- A record stays sorted. -/
theorem keysAscend_insert {key : String} {value : Json} {fields : Fields} (h : KeysAscend fields) :
    KeysAscend (insert key value fields) := by
  induction fields with
  | nil => exact List.pairwise_singleton _ _
  | cons first rest ih =>
    rcases first with ⟨k, v⟩
    rcases keysAscend_cons.mp h with ⟨hfirst, hrest⟩
    unfold insert
    split
    · rename_i hlt
      refine keysAscend_cons.mpr ⟨?_, h⟩
      intro other hmem
      rcases List.mem_cons.mp hmem with rfl | hmem
      · exact hlt
      · exact lt_trans hlt (hfirst other hmem)
    · split
      · rename_i heq
        subst heq
        exact keysAscend_cons.mpr ⟨hfirst, hrest⟩
      · rename_i hle hne
        have hgt : k < key := lt_of_le_of_ne (not_lt.mp hle) fun heq => hne heq.symm
        refine keysAscend_cons.mpr ⟨?_, ih hrest⟩
        intro other hmem
        rcases (mem_insert hrest).mp hmem with rfl | ⟨-, hmem⟩
        · exact hgt
        · exact hfirst other hmem

/-- A field with the greatest key is put at the end. -/
theorem insert_last {key : String} {value : Json} {fields : Fields}
    (h : ∀ field ∈ fields, field.1 < key) : insert key value fields = fields ++ [(key, value)] := by
  induction fields with
  | nil => rfl
  | cons first rest ih =>
    rcases first with ⟨k, v⟩
    have hlt : k < key := h (k, v) List.mem_cons_self
    rw [insert, if_neg (lt_asymm hlt), if_neg (ne_of_gt hlt),
      ih fun field hmem => h field (List.mem_cons_of_mem _ hmem)]
    rfl

/-! ## Records of fields -/

/-- Puts fields in their places from first to last. -/
def insertAll (sorted fields : Fields) : Fields :=
  fields.foldl (fun sorted field => insert field.1 field.2 sorted) sorted

theorem ofFields_eq (fields : Fields) : ofFields fields = insertAll [] fields := rfl

theorem keysAscend_nil : KeysAscend [] :=
  List.Pairwise.nil

theorem insertAll_cons (sorted : Fields) (field : String × Json) (fields : Fields) :
    insertAll sorted (field :: fields) = insertAll (insert field.1 field.2 sorted) fields := rfl

theorem keysAscend_insertAll {sorted fields : Fields} (h : KeysAscend sorted) :
    KeysAscend (insertAll sorted fields) := by
  induction fields generalizing sorted with
  | nil => exact h
  | cons field rest ih => exact ih (keysAscend_insert h)

/-- A record is sorted. -/
theorem keysAscend_ofFields (fields : Fields) : KeysAscend (ofFields fields) :=
  keysAscend_insertAll keysAscend_nil

/-- A field after which its key does not come again. -/
def IsLast (field : String × Json) (fields : Fields) : Prop :=
  ∃ before after, fields = before ++ field :: after ∧ field.1 ∉ after.map Prod.fst

theorem isLast_cons {field first : String × Json} {rest : Fields} :
    IsLast field (first :: rest) ↔
      IsLast field rest ∨ (field = first ∧ field.1 ∉ rest.map Prod.fst) := by
  constructor
  · rintro ⟨before, after, hsplit, hkey⟩
    rcases List.cons_eq_append_iff.mp hsplit with ⟨rfl, hrest⟩ | ⟨others, rfl, rfl⟩
    · rcases List.cons.inj hrest with ⟨rfl, rfl⟩
      exact .inr ⟨rfl, hkey⟩
    · exact .inl ⟨others, after, rfl, hkey⟩
  · rintro (⟨before, after, rfl, hkey⟩ | ⟨rfl, hkey⟩)
    · exact ⟨first :: before, after, rfl, hkey⟩
    · exact ⟨[], rest, rfl, hkey⟩

/-- Of the fields with one key, a record holds the last. -/
theorem mem_insertAll_iff {sorted fields : Fields} (h : KeysAscend sorted)
    {field : String × Json} :
    field ∈ insertAll sorted fields ↔
      IsLast field fields ∨ (field.1 ∉ fields.map Prod.fst ∧ field ∈ sorted) := by
  induction fields generalizing sorted with
  | nil => simp [insertAll, IsLast]
  | cons first rest ih =>
    rw [insertAll_cons, ih (keysAscend_insert h), mem_insert h, isLast_cons, List.map_cons,
      List.mem_cons, not_or]
    tauto

theorem mem_ofFields_iff {fields : Fields} {field : String × Json} :
    field ∈ ofFields fields ↔ IsLast field fields := by
  rw [ofFields_eq, mem_insertAll_iff keysAscend_nil]
  simp

theorem IsLast.mem {field : String × Json} {fields : Fields} (h : IsLast field fields) :
    field ∈ fields := by
  rcases h with ⟨before, after, rfl, -⟩
  exact List.mem_append_right before List.mem_cons_self

theorem isLast_iff_mem {fields : Fields} (hnodup : (fields.map Prod.fst).Nodup)
    {field : String × Json} : IsLast field fields ↔ field ∈ fields := by
  refine ⟨IsLast.mem, fun hmem => ?_⟩
  rcases List.append_of_mem hmem with ⟨before, after, rfl⟩
  rw [List.map_append, List.map_cons] at hnodup
  exact ⟨before, after, rfl, (List.nodup_cons.mp (List.nodup_append.mp hnodup).2.1).1⟩

/-- Whatever the keys are, a record holds nothing but its fields. -/
theorem mem_of_mem_ofFields {fields : Fields} {field : String × Json}
    (hmem : field ∈ ofFields fields) : field ∈ fields :=
  (mem_ofFields_iff.mp hmem).mem

/-- A record holds its fields, if their keys are different. -/
theorem mem_ofFields {fields : Fields} (hnodup : (fields.map Prod.fst).Nodup)
    {field : String × Json} : field ∈ ofFields fields ↔ field ∈ fields := by
  rw [mem_ofFields_iff, isLast_iff_mem hnodup]

theorem keys_nodup_of_keysAscend {fields : Fields} (h : KeysAscend fields) :
    (fields.map Prod.fst).Nodup :=
  h.imp fun hlt => ne_of_lt hlt

/-- A record holds its fields in another order, if their keys are different. -/
theorem ofFields_perm {fields : Fields} (hnodup : (fields.map Prod.fst).Nodup) :
    (ofFields fields).Perm fields := by
  have hsorted := keys_nodup_of_keysAscend (keysAscend_ofFields fields)
  exact (List.perm_ext_iff_of_nodup (List.Nodup.of_map _ hsorted) (List.Nodup.of_map _ hnodup)).mpr
    fun _ => mem_ofFields hnodup

/-- Sorted fields are put one after the other. -/
theorem insertAll_of_keysAscend {sorted fields : Fields} (h : KeysAscend (sorted ++ fields)) :
    insertAll sorted fields = sorted ++ fields := by
  induction fields generalizing sorted with
  | nil => exact (List.append_nil sorted).symm
  | cons first rest ih =>
    -- the first of the others has the greatest key so far
    have hlast : ∀ field ∈ sorted, field.1 < first.1 := by
      intro field hmem
      rw [KeysAscend, List.map_append, List.pairwise_append] at h
      exact h.2.2 _ (List.mem_map_of_mem hmem) _ List.mem_cons_self
    have hsplit : sorted ++ first :: rest = sorted ++ [first] ++ rest := by simp
    rw [hsplit] at h ⊢
    rw [insertAll_cons, insert_last hlast, ih h]

/-- Sorted fields are their own record. -/
theorem ofFields_of_keysAscend {fields : Fields} (h : KeysAscend fields) :
    ofFields fields = fields :=
  insertAll_of_keysAscend h

/-- Sorted fields are the record of the same fields in any order. -/
theorem ofFields_of_perm {fields sorted : Fields} (hperm : fields.Perm sorted)
    (h : KeysAscend sorted) : ofFields fields = sorted := by
  have hnodup := (hperm.map Prod.fst).nodup_iff.mpr (keys_nodup_of_keysAscend h)
  have hascend := keysAscend_ofFields fields
  rw [KeysAscend, List.pairwise_map] at h hascend
  refine List.Perm.eq_of_pairwise ?_ hascend h ((ofFields_perm hnodup).trans hperm)
  intro one other _ _ hlt hgt
  exact absurd hgt (lt_asymm hlt)

/-! ## Sorted values -/

theorem allSorted_iff {items : List Json} : AllSorted items ↔ ∀ item ∈ items, IsSorted item := by
  induction items with
  | nil => simp [AllSorted]
  | cons item rest ih => rw [AllSorted, ih, List.forall_mem_cons]

theorem fieldsSorted_iff {fields : Fields} :
    FieldsSorted fields ↔ ∀ field ∈ fields, IsSorted field.2 := by
  induction fields with
  | nil => simp [FieldsSorted]
  | cons field rest ih => rw [FieldsSorted, ih, List.forall_mem_cons]

mutual

/-- A sorted value is its own canonical form. -/
theorem canonical_of_isSorted (value : Json) (h : IsSorted value) : canonical value = value := by
  match value with
  | .null => rfl
  | .flag value => rfl
  | .number n => rfl
  | .text t => rfl
  | .list items =>
    rw [IsSorted] at h
    rw [canonical, canonicalItems_of_allSorted items h]
  | .record fields =>
    rw [IsSorted] at h
    rw [canonical, canonicalFields_of_fieldsSorted fields h.2, ofFields_of_keysAscend h.1]

/-- Sorted items are their own canonical form. -/
theorem canonicalItems_of_allSorted (items : List Json) (h : AllSorted items) :
    canonicalItems items = items := by
  match items with
  | [] => rfl
  | item :: rest =>
    rw [AllSorted] at h
    rw [canonicalItems, canonical_of_isSorted item h.1, canonicalItems_of_allSorted rest h.2]

/-- Fields with sorted values are their own canonical form. -/
theorem canonicalFields_of_fieldsSorted (fields : Fields) (h : FieldsSorted fields) :
    canonicalFields fields = fields := by
  match fields with
  | [] => rfl
  | (key, value) :: rest =>
    rw [FieldsSorted] at h
    rw [canonicalFields, canonical_of_isSorted value h.1, canonicalFields_of_fieldsSorted rest h.2]

end

/-! ## Values read anew -/

theorem rereadFields_cons {key : String} {value : Json} {rest fields : Fields}
    (h : rereadFields ((key, value) :: rest) = some fields) :
    ∃ read others, reread value = some read ∧ rereadFields rest = some others ∧
      fields = (key, read) :: others := by
  rw [rereadFields] at h
  rcases Option.bind_eq_some_iff.mp h with ⟨read, hread, h⟩
  rcases Option.bind_eq_some_iff.mp h with ⟨others, hothers, h⟩
  exact ⟨read, others, hread, hothers, (Option.some.inj h).symm⟩

theorem rereadItems_cons {item : Json} {rest items : List Json}
    (h : rereadItems (item :: rest) = some items) :
    ∃ read others, reread item = some read ∧ rereadItems rest = some others ∧
      items = read :: others := by
  rw [rereadItems] at h
  rcases Option.bind_eq_some_iff.mp h with ⟨read, hread, h⟩
  rcases Option.bind_eq_some_iff.mp h with ⟨others, hothers, h⟩
  exact ⟨read, others, hread, hothers, (Option.some.inj h).symm⟩

/-- The keys of fields are the same when they are read anew. -/
theorem rereadFields_keys {fields read : Fields} (h : rereadFields fields = some read) :
    read.map Prod.fst = fields.map Prod.fst := by
  induction fields generalizing read with
  | nil =>
    obtain rfl := Option.some.inj h
    rfl
  | cons field rest ih =>
    rcases rereadFields_cons h with ⟨value, others, -, hothers, rfl⟩
    rw [List.map_cons, List.map_cons, ih hothers]

/-- A field is found again with its value read anew. -/
theorem mem_rereadFields {fields read : Fields} (h : rereadFields fields = some read)
    {key : String} {value : Json} (hmem : (key, value) ∈ fields) :
    ∃ again, reread value = some again ∧ (key, again) ∈ read := by
  induction fields generalizing read with
  | nil => exact absurd hmem List.not_mem_nil
  | cons field rest ih =>
    rcases rereadFields_cons h with ⟨again, others, hagain, hothers, rfl⟩
    rcases List.mem_cons.mp hmem with rfl | hmem
    · exact ⟨again, hagain, List.mem_cons_self⟩
    · rcases ih hothers hmem with ⟨found, hfound, hin⟩
      exact ⟨found, hfound, List.mem_cons_of_mem _ hin⟩

mutual

/-- A sorted value is read anew as one. -/
theorem isSorted_reread (value : Json) {read : Json} (h : IsSorted value)
    (hread : reread value = some read) : IsSorted read := by
  match value with
  | .null =>
    obtain rfl := Option.some.inj hread
    exact h
  | .flag value =>
    obtain rfl := Option.some.inj hread
    exact h
  | .text t =>
    obtain rfl := Option.some.inj hread
    exact h
  | .number n =>
    rw [reread, rereadNumber] at hread
    split at hread
    · obtain rfl := Option.some.inj hread
      trivial
    · rcases Option.map_eq_some_iff.mp hread with ⟨n, -, rfl⟩
      trivial
  | .list items =>
    rw [reread] at hread
    rcases Option.map_eq_some_iff.mp hread with ⟨again, hagain, rfl⟩
    rw [IsSorted] at h ⊢
    exact allSorted_rereadItems items h hagain
  | .record fields =>
    rw [reread] at hread
    rcases Option.map_eq_some_iff.mp hread with ⟨again, hagain, rfl⟩
    rw [IsSorted] at h ⊢
    rw [KeysAscend, rereadFields_keys hagain]
    exact ⟨h.1, fieldsSorted_rereadFields fields h.2 hagain⟩

/-- Sorted items are read anew as such. -/
theorem allSorted_rereadItems (items : List Json) {read : List Json} (h : AllSorted items)
    (hread : rereadItems items = some read) : AllSorted read := by
  match items with
  | [] =>
    obtain rfl := Option.some.inj hread
    exact h
  | item :: rest =>
    rcases rereadItems_cons hread with ⟨again, others, hagain, hothers, rfl⟩
    rw [AllSorted] at h ⊢
    exact ⟨isSorted_reread item h.1 hagain, allSorted_rereadItems rest h.2 hothers⟩

/-- Fields with sorted values are read anew as such. -/
theorem fieldsSorted_rereadFields (fields : Fields) {read : Fields} (h : FieldsSorted fields)
    (hread : rereadFields fields = some read) : FieldsSorted read := by
  match fields with
  | [] =>
    obtain rfl := Option.some.inj hread
    exact h
  | (key, value) :: rest =>
    rcases rereadFields_cons hread with ⟨again, others, hagain, hothers, rfl⟩
    rw [FieldsSorted] at h ⊢
    exact ⟨isSorted_reread value h.1 hagain, fieldsSorted_rereadFields rest h.2 hothers⟩

end

/-! ## Values without doubles -/

/-- A natural number of 64 bits is read as it was written. -/
theorem reread_nat {n : Nat} (h : n < UInt64.size) : reread (.nat n) = some (.nat n) := by
  have hread := ofChars?_chars_natural h
  have hnull : (JsonNumber.integer n).chars ≠ ['n', 'u', 'l', 'l'] := by
    intro hchars
    have hnone : JsonNumber.ofChars? ['n', 'u', 'l', 'l'] = none := by decide
    rw [hchars, hnone] at hread
    exact absurd hread (by simp)
  rw [nat, reread, rereadNumber, if_neg hnull, hread]
  rfl

/-- Items that are read as they were written. -/
theorem rereadItems_same {items : List Json} (h : ∀ item ∈ items, reread item = some item) :
    rereadItems items = some items := by
  induction items with
  | nil => rfl
  | cons item rest ih =>
    rcases List.forall_mem_cons.mp h with ⟨hitem, hrest⟩
    rw [rereadItems, hitem, ih hrest]
    rfl

/-- Fields that are read as they were written. -/
theorem rereadFields_same {fields : Fields} (h : ∀ field ∈ fields, reread field.2 = some field.2) :
    rereadFields fields = some fields := by
  induction fields with
  | nil => rfl
  | cons field rest ih =>
    rcases List.forall_mem_cons.mp h with ⟨hfield, hrest⟩
    rw [rereadFields, hfield, ih hrest]
    rfl

/-- A list is read as it was written if its items are. -/
theorem reread_list {items : List Json} (h : ∀ item ∈ items, reread item = some item) :
    reread (.list items) = some (.list items) := by
  rw [reread, rereadItems_same h]
  rfl

/-- A record is read as it was written if its values are. -/
theorem reread_recordOf {fields : Fields} (h : ∀ field ∈ fields, reread field.2 = some field.2) :
    reread (recordOf fields) = some (recordOf fields) := by
  rw [recordOf, reread, rereadFields_same fun field hmem => h field (mem_of_mem_ofFields hmem)]
  rfl

/-! ## Texts -/

/-- A value is sorted, and at most so many of its lists and records are open at once. -/
structure Fits (bound : Nat) (value : Json) : Prop where
  sorted : IsSorted value
  shallow : depth value ≤ bound

theorem itemsDepth_le {items : List Json} {bound : Nat} (h : ∀ item ∈ items, depth item ≤ bound) :
    itemsDepth items ≤ bound := by
  induction items with
  | nil => exact Nat.zero_le bound
  | cons item rest ih =>
    rcases List.forall_mem_cons.mp h with ⟨hitem, hrest⟩
    exact Nat.max_le.mpr ⟨hitem, ih hrest⟩

theorem fieldsDepth_le {fields : Fields} {bound : Nat}
    (h : ∀ field ∈ fields, depth field.2 ≤ bound) : fieldsDepth fields ≤ bound := by
  induction fields with
  | nil => exact Nat.zero_le bound
  | cons field rest ih =>
    rcases List.forall_mem_cons.mp h with ⟨hfield, hrest⟩
    exact Nat.max_le.mpr ⟨hfield, ih hrest⟩

/-- A list fits if its items fit with one bracket less. -/
theorem fits_list {items : List Json} {bound : Nat} (h : ∀ item ∈ items, Fits bound item) :
    Fits (bound + 1) (.list items) := by
  constructor
  · rw [IsSorted]
    exact allSorted_iff.mpr fun item hmem => (h item hmem).sorted
  · rw [depth]
    exact Nat.succ_le_succ (itemsDepth_le fun item hmem => (h item hmem).shallow)

/-- A record fits if its values fit with one bracket less. -/
theorem fits_recordOf {fields : Fields} {bound : Nat} (h : ∀ field ∈ fields, Fits bound field.2) :
    Fits (bound + 1) (recordOf fields) := by
  have hvalues : ∀ field ∈ ofFields fields, Fits bound field.2 :=
    fun field hmem => h field (mem_of_mem_ofFields hmem)
  constructor
  · rw [recordOf, IsSorted]
    exact ⟨keysAscend_ofFields fields,
      fieldsSorted_iff.mpr fun field hmem => (hvalues field hmem).sorted⟩
  · rw [recordOf, depth]
    exact Nat.succ_le_succ (fieldsDepth_le fun field hmem => (hvalues field hmem).shallow)

/-- The text of a value that fits is read as the value with its numbers read anew. -/
theorem parse?_write {value : Json} (h : Fits maxOpen value) :
    parse? (write value) = reread value := by
  rw [parse?, document?_write h.shallow]
  cases hread : reread value with
  | none => rfl
  | some read =>
    rw [Option.map_some, canonical_of_isSorted read (isSorted_reread value h.sorted hread)]

end GameShelf.Json
