import GameShelf.Backend.MediaType
import GameShelf.Backend.Store
import GameShelf.Json.Surface
import GameShelf.Text.WireBody

/-!
# Bodies of requests

A body has to be announced as JSON and must not be too long. It is decoded while it is read: the
first fault decides about the answer, whether the text is no JSON there or the value is of the
wrong shape. The fields of requests are scalars, so that the surface of a body has all that can
be wanted of it, and values under keys that name no field are passed over.

A refusal has a status here and no body. The one that is sent is not an envelope: it is a line
of plain text in the words of the web framework, with those of the parser in it, and is left out.

* `Backend.Request`: a request as it arrives.
* `Backend.decodeBody`: what the body of a request gives, or the answer that refuses it.
-/

namespace GameShelf.Backend

open Decode (Draft FieldList Layout Values)
open Json (Mark)

/-- A request as it arrives. -/
structure Request where
  method : String
  path : String
  authorization : Option String
  contentType : Option String
  body : WireBody
deriving DecidableEq, Repr

/-! ## Refusals -/

/-- The refusal of a body that is not announced as JSON. -/
def notAnnounced : Answer := .bare 415

/-- The refusal of a body that is too long. -/
def tooLong : Answer := .bare 413

/-- The refusal of a body that is not JSON. -/
def notJson : Answer := .bare 400

/-- The refusal of a body of the wrong shape. -/
def wrongShape : Answer := .bare 422

/-- A result of decoding, any fault of it being one of shape. -/
def orWrongShape {α : Type} (result : Except DecodeError α) : Except Answer α :=
  result.mapError fun _ => wrongShape

/-- Nothing may be left after a body. -/
def atEnd {α : Type} (result : α) : List Mark → Except Answer α
  | [] => .ok result
  | _ => .error notJson

/-! ## Records -/

/-- Reads the value under a key. A value that has none by its spelling is a fault only where a
field asks for it. -/
def readField {types : List Type} (fields : FieldList types) (draft : Draft types)
    (key : String) : Option Json → Except Answer (Draft types)
  | some shown => orWrongShape (Decode.visit fields draft key shown)
  | none => if Decode.names fields key then .error notJson else .ok draft

/-- Reads the fields of a record up to its end. That a field comes twice is noticed at its
key. -/
def readFields {types : List Type} (fields : FieldList types) (draft : Draft types) :
    List Mark → Except Answer (Draft types × List Mark)
  | .key (some key) :: .value shown :: rest => do
    if Decode.isFound fields draft key then throw wrongShape
    let draft ← readField fields draft key shown
    readFields fields draft rest
  | .key (some key) :: _ =>
    .error (if Decode.isFound fields draft key then wrongShape else notJson)
  | .closed :: rest => .ok (draft, rest)
  | _ => .error notJson

/-- Reads a body that is a record, after its beginning. -/
def readRecord {α : Type} (layout : Layout α) (marks : List Mark) : Except Answer α := do
  let (draft, rest) ← readFields layout.fields (Draft.blank layout.types) marks
  let values ← orWrongShape (Decode.complete layout.fields draft)
  atEnd (layout.build values) rest

/-! ## Lists in place of records -/

/-- Reads the items of a list up to its end, one for each field. A list that goes on after the
last field breaks where its end should be. -/
def readItems : {types : List Type} → FieldList types → List Mark →
    Except Answer (Values types × List Mark)
  | [], _, .closed :: rest => .ok ((), rest)
  | _ :: _, (field, others), .closed :: rest => do
    let value ← match field.afterEnd? with
      | some value => .ok value
      | none => .error wrongShape
    let (values, rest) ← readItems others (.closed :: rest)
    return ((value, values), rest)
  | _ :: _, (field, others), .value (some shown) :: rest => do
    let value ← orWrongShape (field.read shown)
    let (values, rest) ← readItems others rest
    return ((value, values), rest)
  | _, _, _ => .error notJson

/-- Reads a body that is a list, after its beginning. -/
def readList {α : Type} (layout : Layout α) (marks : List Mark) : Except Answer α := do
  let (values, rest) ← readItems layout.fields marks
  atEnd (layout.build values) rest

/-! ## Bodies -/

/-- Reads a body. -/
def readMarks {α : Type} (layout : Layout α) : List Mark → Except Answer α
  | .opened .record :: rest => readRecord layout rest
  | .opened .list :: rest => readList layout rest
  | .value (some _) :: _ => .error wrongShape
  | _ => .error notJson

/-- The tokens of a body. -/
def bodyTokens : WireBody → List Json.Token
  | .text value => Json.tokens value
  | .bytes value => Json.tokensOfBytes value

/-- How many bytes a body may have. -/
def maxBodyBytes : Nat := 2 * 1024 * 1024

/-- Whether the content type of a request announces JSON. -/
def announcesJson (request : Request) : Bool :=
  (request.contentType.bind MediaType.ofText?).any MediaType.isJson

/-- Decodes the body of a request. -/
def decodeBody {α : Type} (layout : Layout α) (request : Request) : Except Answer α :=
  if !announcesJson request then .error notAnnounced
  else if maxBodyBytes < request.body.size then .error tooLong
  else readMarks layout (Json.surface (bodyTokens request.body))

end GameShelf.Backend
