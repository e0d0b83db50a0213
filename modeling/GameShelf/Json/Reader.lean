import GameShelf.Json.Token

/-!
# Reading JSON

Tokens are put together from left to right. The lists and records that are open wait on a
stack; a finished value goes into the innermost of them. A token without a value has no place
anywhere.

* `Json.document?`: the value of a text with its fields as they stand, repeated keys included.
* `Json.parse?`: the value of a text with sorted fields, of a repeated key the last one.

At most `Json.maxOpen` lists and records may be open at once.
-/

namespace GameShelf.Json

/-- How many lists and records may be open at once. -/
def maxOpen : Nat := 127

/-- An open list or record with what was read of it, last part first. -/
inductive Frame where
  | items (read : List Json)
  | fields (read : Fields) (key : String)
deriving Repr

/-- What has to follow. -/
inductive Assembly where
  /-- A value. -/
  | beforeValue (stack : List Frame)
  /-- The first item of a list, or its end. -/
  | beforeFirstItem (stack : List Frame)
  /-- The first key of a record, or its end. -/
  | beforeFirstKey (stack : List Frame)
  /-- The next key of a record. -/
  | beforeKey (read : Fields) (stack : List Frame)
  /-- The colon after a key. -/
  | beforeColon (read : Fields) (key : String) (stack : List Frame)
  /-- A comma or the end of a list. -/
  | afterItem (read : List Json) (stack : List Frame)
  /-- A comma or the end of a record. -/
  | afterField (read : Fields) (stack : List Frame)
  /-- Nothing. -/
  | finished (value : Json)
deriving Repr

/-- Puts a finished value where it belongs. -/
def Assembly.complete (value : Json) : List Frame → Assembly
  | [] => .finished value
  | .items read :: stack => .afterItem (value :: read) stack
  | .fields read key :: stack => .afterField ((key, value) :: read) stack

/-- Reads the first token of a value. -/
def Assembly.beginValue? (stack : List Frame) : Token → Option Assembly
  | .scalar (some value) => some (complete value stack)
  | .text (some value) => some (complete (.text value) stack)
  | .openList => if stack.length < maxOpen then some (.beforeFirstItem stack) else none
  | .openRecord => if stack.length < maxOpen then some (.beforeFirstKey stack) else none
  | _ => none

/-- Reads one token. -/
def Assembly.step? : Assembly → Token → Option Assembly
  | .beforeValue stack, token => beginValue? stack token
  | .beforeFirstItem stack, .closeList => some (complete (.list []) stack)
  | .beforeFirstItem stack, token => beginValue? (.items [] :: stack) token
  | .beforeFirstKey stack, .closeRecord => some (complete (.record []) stack)
  | .beforeFirstKey stack, .text (some key) => some (.beforeColon [] key stack)
  | .beforeKey read stack, .text (some key) => some (.beforeColon read key stack)
  | .beforeColon read key stack, .colon => some (.beforeValue (.fields read key :: stack))
  | .afterItem read stack, .comma => some (.beforeValue (.items read :: stack))
  | .afterItem read stack, .closeList => some (complete (.list read.reverse) stack)
  | .afterField read stack, .comma => some (.beforeKey read stack)
  | .afterField read stack, .closeRecord => some (complete (.record read.reverse) stack)
  | _, _ => none

/-- The value that a sequence of tokens makes up. -/
def ofTokens? (tokens : List Token) : Option Json :=
  match tokens.foldlM Assembly.step? (.beforeValue []) with
  | some (.finished value) => some value
  | _ => none

/-- The value of a text, with the fields of its records as they stand there. -/
def document? (text : String) : Option Json :=
  ofTokens? (tokens text)

/-- The value of a text. -/
def parse? (text : String) : Option Json :=
  (document? text).map canonical

end GameShelf.Json
