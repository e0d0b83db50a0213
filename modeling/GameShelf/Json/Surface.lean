import GameShelf.Json.Token

/-!
# The surface of a JSON text

Who wants the outermost list or record of a text, and of that only some parts, can leave what is
inside the other parts unread. It is passed over then: its brackets have to match and its tokens
have to come in order, but it may be nested as deep as it likes, and tokens without a value are
as good as others.

* `Json.Passage`: how far a text has been passed over, with the brackets that are open.
* `Json.Mark`: what shows of a text on its surface.
* `Json.surface`: the marks of the tokens of a text, in order.
-/

namespace GameShelf.Json

/-! ## Passing over -/

/-- What a bracket opens. -/
inductive Bracket where
  | list
  | record
deriving DecidableEq, Repr

/-- What has to follow, inside the brackets that are open, innermost first. -/
inductive Passage where
  /-- A value. -/
  | beforeValue (stack : List Bracket)
  /-- The first part of what was opened last, or its end. -/
  | afterOpening (stack : List Bracket)
  /-- The next key of a record. -/
  | beforeKey (stack : List Bracket)
  /-- The colon after a key. -/
  | beforeColon (stack : List Bracket)
  /-- A comma or the end of what is open. -/
  | afterPart (stack : List Bracket)
  /-- Nothing. -/
  | finished
deriving DecidableEq, Repr

namespace Passage

/-- A value is complete. -/
def complete : List Bracket → Passage
  | [] => .finished
  | stack => .afterPart stack

/-- Passes the first token of a value. -/
def beginValue? (stack : List Bracket) : Token → Option Passage
  | .scalar _ => some (complete stack)
  | .text _ => some (complete stack)
  | .openList => some (.afterOpening (.list :: stack))
  | .openRecord => some (.afterOpening (.record :: stack))
  | _ => none

/-- Passes one token. -/
def step? : Passage → Token → Option Passage
  | .beforeValue stack, token => beginValue? stack token
  | .afterOpening (.list :: stack), .closeList => some (complete stack)
  | .afterOpening (.list :: stack), token => beginValue? (.list :: stack) token
  | .afterOpening (.record :: stack), .closeRecord => some (complete stack)
  | .afterOpening stack, .text _ => some (.beforeColon stack)
  | .beforeKey stack, .text _ => some (.beforeColon stack)
  | .beforeColon stack, .colon => some (.beforeValue stack)
  | .afterPart (.list :: stack), .comma => some (.beforeValue (.list :: stack))
  | .afterPart (.list :: stack), .closeList => some (complete stack)
  | .afterPart (.record :: stack), .comma => some (.beforeKey (.record :: stack))
  | .afterPart (.record :: stack), .closeRecord => some (complete stack)
  | _, _ => none

end Passage

/-! ## Marks -/

/-- What shows of a text on its surface. -/
inductive Mark where
  /-- The outermost list or record begins. -/
  | opened (bracket : Bracket)
  /-- A key of the outermost record. -/
  | key (name : Option String)
  /-- A value that is a part of the outermost one, or is itself the outermost and neither list
  nor record. A list or record shows as an empty one. -/
  | value (shown : Option Json)
  /-- The outermost list or record ends. -/
  | closed
  /-- The text is not JSON from here on. -/
  | broken
deriving Repr

/-- What the first token of a value shows of it. -/
def Token.shown : Token → Option Json
  | .scalar value => value
  | .text value => value.map .text
  | .openList => some (.list [])
  | .openRecord => some (.record [])
  | _ => none

/-- What a token shows if it can be passed. Inside of parts nothing shows. -/
def Passage.mark? : Passage → Token → Option Mark
  | .beforeValue [], .openList => some (.opened .list)
  | .beforeValue [], .openRecord => some (.opened .record)
  | .beforeValue [], token => some (.value token.shown)
  | .beforeValue [_], token => some (.value token.shown)
  | .afterOpening [_], .closeList => some .closed
  | .afterOpening [_], .closeRecord => some .closed
  | .afterOpening [.list], token => some (.value token.shown)
  | .afterOpening [.record], .text name => some (.key name)
  | .beforeKey [_], .text name => some (.key name)
  | .afterPart [_], .closeList => some .closed
  | .afterPart [_], .closeRecord => some .closed
  | _, _ => none

/-- The marks of the tokens to come. -/
def Passage.marks (passage : Passage) : List Token → List Mark
  | [] => if passage = .finished then [] else [.broken]
  | token :: rest =>
    match passage.step? token with
    | none => [.broken]
    | some next =>
      match passage.mark? token with
      | some mark => mark :: next.marks rest
      | none => next.marks rest

/-- The marks of the tokens of a text. -/
def surface (tokens : List Token) : List Mark :=
  (Passage.beforeValue []).marks tokens

end GameShelf.Json
