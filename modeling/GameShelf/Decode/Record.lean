import GameShelf.Decode.Reader

/-!
# Decoding records

A record is described by its fields in order of declaration: the name of each, other names it
goes by, how to read it, and what stands for it when it is left out. From the description one
decoder follows for both forms in which a record may come.

* A JSON record. Its fields are visited in their order there, and the first fault ends
  decoding. Keys that name no field are passed over. A field must not come under two names.
  After all keys, the fields left out are looked at in order of declaration.
* A JSON list of the field values in order of declaration. All must be there, except that
  fields with a default may be missing at the end.

The main definitions are `Decode.Field`, `Decode.Layout` and `Decode.Layout.read`.
-/

namespace GameShelf.Decode

/-! ## Descriptions -/

/-- What stands for a field that is left out. -/
inductive Absence (α : Type) where
  /-- Nothing: the field must be there. -/
  | required
  /-- A value, where a record leaves the field out. A list must have it. -/
  | nullable (value : α)
  /-- A value, also where a list ends before the field. -/
  | defaulted (value : α)

/-- A field of a record. -/
structure Field (α : Type) where
  name : String
  aliases : List String
  read : Reader α
  absence : Absence α

/-- Whether a key names the field. -/
def Field.answersTo {α : Type} (field : Field α) (key : String) : Bool :=
  key == field.name || field.aliases.contains key

/-- A field that must be there. -/
def required {α : Type} (name : String) (read : Reader α) : Field α :=
  ⟨name, [], read, .required⟩

/-- A field that may be null or left out. -/
def optional {α : Type} (name : String) (read : Reader α) : Field (Option α) :=
  ⟨name, [], nullable read, .nullable none⟩

/-- A field with a default. -/
def defaulted {α : Type} (name : String) (read : Reader α) (value : α) : Field α :=
  ⟨name, [], read, .defaulted value⟩

/-- The same field with another name that it goes by. -/
def Field.alsoNamed {α : Type} (field : Field α) (name : String) : Field α :=
  { field with aliases := name :: field.aliases }

/-- The fields of a record, with the types of their values. -/
@[reducible] def FieldList : List Type → Type
  | [] => Unit
  | α :: types => Field α × FieldList types

/-- A value for each field. -/
@[reducible] def Values : List Type → Type
  | [] => Unit
  | α :: types => α × Values types

/-- The values found so far. -/
@[reducible] def Draft : List Type → Type
  | [] => Unit
  | α :: types => Option α × Draft types

/-- The draft in which nothing has been found. -/
def Draft.blank : (types : List Type) → Draft types
  | [] => ()
  | _ :: types => (none, blank types)

/-- The description of a record: its title in messages, its fields, and how the record is made
from their values. -/
structure Layout (ρ : Type) where
  title : String
  types : List Type
  fields : FieldList types
  build : Values types → ρ

/-! ## Records -/

/-- Whether a key names one of the fields. -/
def names : {types : List Type} → FieldList types → String → Bool
  | [], _, _ => false
  | _ :: _, (field, others), key => field.answersTo key || names others key

/-- Whether the field that a key names has been found. -/
def isFound : {types : List Type} → FieldList types → Draft types → String → Bool
  | [], _, _, _ => false
  | _ :: _, (field, others), (found, rest), key =>
    if field.answersTo key then found.isSome else isFound others rest key

/-- Reads the field that a key names into a draft. A key that names none changes nothing. -/
def visit : {types : List Type} → FieldList types → Draft types → String → Json →
    Except DecodeError (Draft types)
  | [], _, _, _, _ => .ok ()
  | _ :: _, (field, others), (found, rest), key, value =>
    if field.answersTo key then
      match found with
      | some _ => .error (.duplicateField field.name)
      | none => (field.read value).map fun read => (some read, rest)
    else (visit others rest key value).map fun rest => (found, rest)

/-- Reads fields into a draft, up to the first fault. -/
def visitAll {types : List Type} (fields : FieldList types) (draft : Draft types) :
    Json.Fields → Except DecodeError (Draft types)
  | [] => .ok draft
  | (key, value) :: rest => do
    let draft ← visit fields draft key value
    visitAll fields draft rest

/-- The value for a field that a record leaves out. -/
def Field.whenAbsent {α : Type} (field : Field α) : Except DecodeError α :=
  match field.absence with
  | .required => .error (.missingField field.name)
  | .nullable value => .ok value
  | .defaulted value => .ok value

/-- Completes a draft with what stands for the fields that were not found. -/
def complete : {types : List Type} → FieldList types → Draft types →
    Except DecodeError (Values types)
  | [], _, _ => .ok ()
  | _ :: _, (field, others), (found, rest) => do
    let value ← match found with
      | some value => .ok value
      | none => field.whenAbsent
    let values ← complete others rest
    return (value, values)

/-- Decodes a JSON record. -/
def Layout.readFields {ρ : Type} (layout : Layout ρ) (fields : Json.Fields) :
    Except DecodeError ρ := do
  let draft ← visitAll layout.fields (Draft.blank layout.types) fields
  let values ← complete layout.fields draft
  return layout.build values

/-! ## Lists in place of records -/

/-- The value for a field before which a list ends. -/
def Field.afterEnd? {α : Type} (field : Field α) : Option α :=
  match field.absence with
  | .defaulted value => some value
  | _ => none

/-- Reads the fields from `position` on from the items of a list; the items left over are
returned. -/
def visitItems (short : Nat → DecodeError) : {types : List Type} → FieldList types → Nat →
    List Json → Except DecodeError (Values types × List Json)
  | [], _, _, rest => .ok ((), rest)
  | _ :: _, (field, others), position, [] => do
    let value ← match field.afterEnd? with
      | some value => .ok value
      | none => .error (short position)
    let (values, rest) ← visitItems short others (position + 1) []
    return ((value, values), rest)
  | _ :: _, (field, others), position, item :: rest => do
    let value ← field.read item
    let (values, rest) ← visitItems short others (position + 1) rest
    return ((value, values), rest)

/-- Decodes a JSON list that stands for a record. -/
def Layout.readItems {ρ : Type} (layout : Layout ρ) (items : List Json) :
    Except DecodeError ρ := do
  let short (position : Nat) : DecodeError :=
    .tooFewItems position layout.title layout.types.length
  let (values, rest) ← visitItems short layout.fields 0 items
  if rest = [] then return layout.build values
  else throw (.tooManyItems items.length)

/-- Decodes a record in either form. -/
def Layout.read {ρ : Type} (layout : Layout ρ) : Reader ρ
  | .record fields => layout.readFields fields
  | .list items => layout.readItems items
  | other => refuse other (.record layout.title)

end GameShelf.Decode
