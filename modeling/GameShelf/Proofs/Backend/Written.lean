import GameShelf.Backend.Body
import GameShelf.Client.Input
import GameShelf.Json.KeyCase
import GameShelf.Proofs.Decode.Record
import GameShelf.Proofs.Json.Fields

/-!
# Bodies that were written

What changes say are records of scalars. All of such a record shows on the surface of its text,
and so the backend decodes a body that was written as it would decode the record itself.

* `Json.surface_write`: the marks of a record of scalars.
* `decodeBody_written`: what is decoded of it.
* `NewCompartment.decodeBody_encode`: what the backend gets of a new compartment.
-/

namespace GameShelf

namespace Json

/-! ## Scalars -/

/-- A value that is neither list nor record. -/
def IsScalar : Json → Prop
  | .list _ | .record _ => False
  | _ => True

/-- A scalar is one token, which shows all of it. -/
theorem spelled_scalar {value : Json} (h : IsScalar value) :
    ∃ token, spelled value = [token] ∧ token.shown = reread value ∧
      (∀ stack, Passage.beginValue? stack token = some (Passage.complete stack)) := by
  cases value with
  | list items => exact h.elim
  | record fields => exact h.elim
  | null => exact ⟨_, rfl, rfl, fun _ => rfl⟩
  | flag value => exact ⟨_, rfl, rfl, fun _ => rfl⟩
  | number n => exact ⟨_, rfl, rfl, fun _ => rfl⟩
  | text t => exact ⟨_, rfl, rfl, fun _ => rfl⟩

/-! ## Marks -/

/-- The marks of fields with scalars. -/
def fieldMarks (fields : Fields) : List Mark :=
  fields.flatMap fun field => [.key (some field.1), .value (reread field.2)]

namespace Passage

/-- A scalar after its key shows. -/
theorem marks_value {value : Json} (h : IsScalar value) (rest : List Token) :
    (beforeValue [.record]).marks (spelled value ++ rest) =
      .value (reread value) :: (afterPart [.record]).marks rest := by
  rcases spelled_scalar h with ⟨token, hspelled, hshown, hbegin⟩
  have hstep : (beforeValue [.record]).step? token = some (afterPart [.record]) := hbegin _
  have hmark : (beforeValue [.record]).mark? token = some (.value (reread value)) := by
    rw [← hshown]
    rfl
  rw [hspelled, List.singleton_append, marks, hstep]
  simp only [hmark]

/-- The marks of the fields of a record up to its end. -/
theorem marks_fields {key : String} {value : Json} {fields : Fields}
    (h : ∀ field ∈ (key, value) :: fields, IsScalar field.2) :
    (beforeKey [.record]).marks (fieldsSpelled ((key, value) :: fields) ++ [.closeRecord]) =
      fieldMarks ((key, value) :: fields) ++ [.closed] := by
  have hkey : ∀ key rest, (beforeKey [.record]).marks (.text (some key) :: .colon :: rest) =
      .key (some key) :: (beforeValue [.record]).marks rest := fun _ _ => rfl
  -- the last value is followed by the end and not by a comma, so the first field is kept apart
  induction fields generalizing key value with
  | nil =>
    have hvalue : IsScalar value := h (key, value) List.mem_cons_self
    rw [fieldsSpelled, List.cons_append, List.cons_append, hkey, marks_value hvalue]
    rfl
  | cons field rest ih =>
    have hvalue : IsScalar value := h (key, value) List.mem_cons_self
    have hrest := ih fun other hother => h other (List.mem_cons_of_mem _ hother)
    have hcomma : ∀ tokens, (afterPart [.record]).marks (.comma :: tokens) =
        (beforeKey [.record]).marks tokens := fun _ => rfl
    rw [fieldsSpelled, List.cons_append, List.cons_append, List.append_assoc, hkey,
      marks_value hvalue, List.cons_append, hcomma, hrest]
    · rfl
    · simp

end Passage

/-- The marks of a record of scalars. -/
theorem surface_write {fields : Fields} (h : ∀ field ∈ fields, IsScalar field.2) :
    surface (tokens (write (.record fields))) =
      .opened .record :: (fieldMarks fields ++ [.closed]) := by
  rw [tokens_write, surface, spelled]
  cases fields with
  | nil => rfl
  | cons field rest =>
    -- the first key shows like the others
    have hfirst : (Passage.beforeValue []).marks
        (.openRecord :: (fieldsSpelled (field :: rest) ++ [.closeRecord])) =
          .opened .record :: (Passage.beforeKey [.record]).marks
            (fieldsSpelled (field :: rest) ++ [.closeRecord]) := by
      cases rest <;> rfl
    rw [hfirst, Passage.marks_fields h]

end Json

namespace Backend

open Decode (Draft FieldList Layout)
open Json (Fields IsScalar fieldMarks reread rereadFields)

/-! ## Decoding -/

section

variable {types : List Type} (fields : FieldList types)

/-- The marks of fields are read as the fields themselves. -/
theorem readFields_fieldMarks {draft : Draft types} {record again : Fields}
    (h : rereadFields record = some again) :
    readFields fields draft (fieldMarks record ++ [.closed]) =
      (orWrongShape (Decode.visitAll fields draft again)).map fun draft => (draft, []) := by
  induction record generalizing draft again with
  | nil =>
    obtain rfl := Option.some.inj h
    rfl
  | cons field rest ih =>
    rcases field with ⟨key, value⟩
    rcases Json.rereadFields_cons h with ⟨read, others, hread, hothers, rfl⟩
    have hmarks : fieldMarks ((key, value) :: rest) ++ [.closed] =
        .key (some key) :: .value (some read) :: (fieldMarks rest ++ [.closed]) := by
      rw [← hread]
      rfl
    rw [hmarks, readFields, Decode.visitAll]
    cases hfound : Decode.isFound fields draft key with
    | true =>
      -- a field that was met before is refused, whatever its value is
      rcases Decode.visit_of_isFound hfound read with ⟨fault, hfault⟩
      rw [hfault]
      rfl
    | false =>
      cases hnext : Decode.visit fields draft key read with
      | error fault =>
        simp only [readField, hnext]
        rfl
      | ok next =>
        simp only [readField, hnext]
        exact ih hothers

end

variable {α : Type} {layout : Layout α} {record again : Fields}

/-- A record of scalars that was written is decoded like the record itself. -/
theorem readMarks_written (hscalar : ∀ field ∈ record, IsScalar field.2)
    (hread : rereadFields record = some again) :
    readMarks layout (Json.surface (Json.tokens (Json.write (.record record)))) =
      orWrongShape (layout.read (.record again)) := by
  rw [Json.surface_write hscalar, readMarks, readRecord, readFields_fieldMarks _ hread,
    Layout.read, Layout.readFields]
  cases Decode.visitAll layout.fields (Draft.blank layout.types) again with
  | error fault => rfl
  | ok draft =>
    cases hcomplete : Decode.complete layout.fields draft with
    | error fault =>
      simp only [bind, Except.bind, hcomplete, orWrongShape, Except.mapError, Except.map]
    | ok values =>
      simp only [bind, Except.bind, hcomplete, orWrongShape, Except.mapError, Except.map]
      rfl

/-- A body that was written and is decoded gives what its record gives. -/
theorem decodeBody_written (hscalar : ∀ field ∈ record, IsScalar field.2)
    (hread : rereadFields record = some again) {request : Request}
    (hbody : request.body = .text (Json.write (.record record))) {input : α}
    (h : decodeBody layout request = .ok input) : layout.read (.record again) = .ok input := by
  have hmarks : readMarks layout (Json.surface (bodyTokens request.body)) =
      orWrongShape (layout.read (.record again)) := by
    rw [hbody, bodyTokens, readMarks_written hscalar hread]
  rw [decodeBody, hmarks] at h
  split at h
  · exact absurd h (by simp)
  · split at h
    · exact absurd h (by simp)
    · exact eq_ok_of_mapError h

end Backend

/-! ## New compartments -/

namespace NewCompartment

variable (input : NewCompartment)

/-- What a new compartment says on the wire. -/
def wireFields : Json.Fields :=
  Input.given (Input.tag "bg_color") input.color ++
    Input.given (Input.text "description") input.description ++
    Input.tag "location_type" input.kind ++
    Input.text "name" input.name ++
    Input.text "parent_location_id" input.placeId

/-- What a new compartment says is respelled on its way. -/
theorem toWire_encode : input.encode.toWire = .record input.wireFields := by
  have hcolor : toSnake "bgColor" = "bg_color" := by decide
  have hdescription : toSnake "description" = "description" := by decide
  have hkind : toSnake "locationType" = "location_type" := by decide
  have hname : toSnake "name" = "name" := by decide
  have hplace : toSnake "parentLocationId" = "parent_location_id" := by decide
  rcases input with ⟨name, kind, placeId, description, color⟩
  cases description <;> cases color <;>
    simp only [encode, wireFields, Input.given, Input.text, Input.tag, Json.recordOf, Json.toWire,
      Json.mapKeys, Json.mapKeysFields, Json.ofFields, Json.insert, hcolor, hdescription, hkind,
      hname, hplace, List.foldl_cons, List.foldl_nil, List.cons_append, List.nil_append,
      List.append_nil, String.reduceLT, String.reduceEq, if_true, if_false]

/-- What the backend gets of it. -/
def received : Backend.CreateCompartment where
  name := input.name
  kind := Tag.wire input.kind
  placeId := input.placeId
  description := input.description
  color := input.color.map Tag.wire

theorem read_wireFields :
    Backend.CreateCompartment.layout.read (.record input.wireFields) = .ok input.received := by
  rcases input with ⟨name, kind, placeId, description, color⟩
  cases description with
  | none => cases color <;> rfl
  | some description => cases color <;> rfl

/-- A new compartment is described by texts alone. -/
theorem wireFields_text : ∀ field ∈ input.wireFields, ∃ t, field.2 = .text t := by
  rcases input with ⟨name, kind, placeId, description, color⟩
  cases description <;> cases color <;> simp [wireFields, Input.given, Input.text, Input.tag]

/-- If the backend decodes a new compartment, it gets all that the change says. -/
theorem decodeBody_encode {arrived : Backend.Request}
    (hbody : arrived.body = .text input.encode.toWire.write) {got : Backend.CreateCompartment}
    (h : Backend.decodeBody Backend.CreateCompartment.layout arrived = .ok got) :
    got = input.received := by
  have hscalar : ∀ field ∈ input.wireFields, Json.IsScalar field.2 := by
    intro field hmem
    rcases input.wireFields_text field hmem with ⟨t, ht⟩
    rw [ht]
    trivial
  have hread : Json.rereadFields input.wireFields = some input.wireFields := by
    apply Json.rereadFields_same
    intro field hmem
    rcases input.wireFields_text field hmem with ⟨t, ht⟩
    rw [ht]
    rfl
  rw [toWire_encode] at hbody
  have hgot := Backend.decodeBody_written hscalar hread hbody h
  exact Except.ok.inj (hgot.symm.trans input.read_wireFields)

end NewCompartment

end GameShelf
