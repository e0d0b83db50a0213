import GameShelf.Binary64.Basic

/-!
# JSON values

Replies, request bodies and the payloads inside them are JSON. A record is the list of its
fields; the values that the program works on keep the fields sorted by key and name no key
twice, which `Json.IsSorted` states.

* `Json`: values.
* `Json.insert`, `Json.ofFields`: records with sorted fields, where a later field replaces an
  earlier one of the same key.
* `Json.field?`: the value of a key.
* `Json.canonical`: sorts the records at every depth.
-/

namespace GameShelf

/-- A JSON number: an integer in the range of 64-bit words, signed or unsigned, or a double. -/
inductive JsonNumber where
  | integer (value : Int)
  | real (value : Binary64)
deriving DecidableEq, Repr

/-- A JSON value. -/
inductive Json where
  | null
  | flag (value : Bool)
  | number (value : JsonNumber)
  | text (value : String)
  | list (items : List Json)
  | record (fields : List (String × Json))
deriving Repr

namespace Json

/-- A list of fields in the order of a record. -/
abbrev Fields := List (String × Json)

/-! ## Records -/

/-- Puts a field in its place, instead of the one with the same key if there is one. -/
def insert (key : String) (value : Json) : Fields → Fields
  | [] => [(key, value)]
  | (k, v) :: rest =>
    if key < k then (key, value) :: (k, v) :: rest
    else if key = k then (key, value) :: rest
    else (k, v) :: insert key value rest

/-- The sorted fields of a record. Of two fields with the same key the later one counts. -/
def ofFields (fields : Fields) : Fields :=
  fields.foldl (fun sorted field => insert field.1 field.2 sorted) []

/-- The value of a key among the fields of a record. -/
def field? (fields : Fields) (key : String) : Option Json :=
  fields.lookup key

/-- A record of the given fields. -/
def recordOf (fields : Fields) : Json :=
  .record (ofFields fields)

/-! ## Sorted values -/

/-- The keys of a list of fields ascend strictly. -/
def KeysAscend (fields : Fields) : Prop :=
  (fields.map Prod.fst).Pairwise (· < ·)

mutual

/-- The keys of every record ascend strictly, at every depth. -/
def IsSorted : Json → Prop
  | .list items => AllSorted items
  | .record fields => KeysAscend fields ∧ FieldsSorted fields
  | _ => True

/-- Every item of a list is sorted. -/
def AllSorted : List Json → Prop
  | [] => True
  | item :: rest => IsSorted item ∧ AllSorted rest

/-- Every value of a list of fields is sorted. -/
def FieldsSorted : Fields → Prop
  | [] => True
  | (_, value) :: rest => IsSorted value ∧ FieldsSorted rest

end

mutual

/-- The same value with the fields of every record sorted; of a repeated key the last value
counts. -/
def canonical : Json → Json
  | .list items => .list (canonicalItems items)
  | .record fields => .record (ofFields (canonicalFields fields))
  | scalar => scalar

/-- The items of a list in canonical form. -/
def canonicalItems : List Json → List Json
  | [] => []
  | item :: rest => canonical item :: canonicalItems rest

/-- The values of fields in canonical form, their keys unchanged. -/
def canonicalFields : Fields → Fields
  | [] => []
  | (key, value) :: rest => (key, canonical value) :: canonicalFields rest

end

/-! ## Building values -/

/-- A natural number as a value. -/
def nat (n : Nat) : Json :=
  .number (.integer n)

/-- An optional value, null if it is absent. -/
def optional {α : Type} (write : α → Json) : Option α → Json
  | none => .null
  | some value => write value

end Json

end GameShelf
