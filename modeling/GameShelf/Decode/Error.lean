import GameShelf.Json.Number
import GameShelf.Text.Quoted

/-!
# Why a value cannot be decoded

* `Decode.Found`: what stood where something else was expected.
* `Decode.Expected`: what would have been accepted.
* `DecodeError`: the faults, and `DecodeError.message` for their wording.
-/

namespace GameShelf

namespace Decode

/-- The value that was met. -/
inductive Found where
  | null
  | flag (value : Bool)
  | number (value : JsonNumber)
  | text (value : String)
  | list
  | record
deriving DecidableEq, Repr

/-- What a value looks like from outside. -/
def Found.ofJson : Json → Found
  | .null => .null
  | .flag value => .flag value
  | .number value => .number value
  | .text value => .text value
  | .list _ => .list
  | .record _ => .record

/-- The wording for a value that was met. -/
def Found.describe : Found → String
  | .null => "null"
  | .flag value => if value then "boolean `true`" else "boolean `false`"
  | .number (.integer z) => "integer `" ++ String.ofList (JsonNumber.integer z).chars ++ "`"
  | .number (.real x) => "floating point `" ++ String.ofList (JsonNumber.real x).chars ++ "`"
  | .text value => "string " ++ Text.quoted value
  | .list => "sequence"
  | .record => "map"

/-- The values that a decoder accepts. -/
inductive Expected where
  | text
  | flag
  | list
  | word64
  | word32
  | double
  | record (title : String)
  | choice
  | singleKey
  | nothing
deriving DecidableEq, Repr

/-- The wording for what is accepted. -/
def Expected.describe : Expected → String
  | .text => "a string"
  | .flag => "a boolean"
  | .list => "a sequence"
  | .word64 => "u64"
  | .word32 => "u32"
  | .double => "f64"
  | .record title => "struct " ++ title
  | .choice => "string or map"
  | .singleKey => "map with a single key"
  | .nothing => "unit"

end Decode

open Decode

/-- A fault that ends decoding. -/
inductive DecodeError where
  /-- A value of the wrong kind. -/
  | wrongType (found : Found) (expected : Expected)
  /-- A value of the right kind that is out of range. -/
  | wrongValue (found : Found) (expected : Expected)
  /-- A field that a record must have. -/
  | missingField (name : String)
  /-- A field that a record has under two of its names. -/
  | duplicateField (name : String)
  /-- A list in place of a record that ends before the field at `position`. -/
  | tooFewItems (position : Nat) (title : String) (fields : Nat)
  /-- A list in place of a record with items after the last field. -/
  | tooManyItems (items : Nat)
  /-- A value that is neither a number nor text nor null. -/
  | neitherNumberNorText
  /-- A text that names no member of a closed set. -/
  | unknownTag (text : String) (known : List String)
deriving DecidableEq, Repr

/-- Words between backticks with commas between them. -/
def DecodeError.ticked (words : List String) : String :=
  String.intercalate ", " (words.map fun word => "`" ++ word ++ "`")

/-- The wording of a fault. -/
def DecodeError.message : DecodeError → String
  | .wrongType found expected =>
    "invalid type: " ++ found.describe ++ ", expected " ++ expected.describe
  | .wrongValue found expected =>
    "invalid value: " ++ found.describe ++ ", expected " ++ expected.describe
  | .missingField name => "missing field `" ++ name ++ "`"
  | .duplicateField name => "duplicate field `" ++ name ++ "`"
  | .tooFewItems position title fields =>
    s!"invalid length {position}, expected struct {title} with {fields} elements"
  | .tooManyItems items => s!"invalid length {items}, expected fewer elements in array"
  | .neitherNumberNorText => "data did not match any variant of untagged enum NumberOrText"
  | .unknownTag text known =>
    "unknown variant `" ++ text ++ "`, expected one of " ++ ticked known

end GameShelf
