/-!
# Media types

The header of a request says of what type its body is: a kind and a subtype with a slash
between them, then parameters. The backend only asks whether the type is JSON, but a header
that is not well formed is of no type at all, so the parameters are checked to the end.

* `Backend.MediaType`: a type without its parameters.
* `Backend.MediaType.ofText?`: the type that a header names.
* `Backend.MediaType.isJson`: whether a type is JSON, or JSON underneath.
-/

namespace GameShelf.Backend

/-- A media type without its parameters, in lower case. What follows the last plus sign of the
subtype is its suffix. -/
structure MediaType where
  kind : List Char
  subtype : List Char
  suffix : Option (List Char)
deriving DecidableEq, Repr

namespace MediaType

/-! ## Characters -/

/-- The code points of the signs that names may have beside letters and digits. -/
def nameSigns : List Nat :=
  [0x21, 0x23, 0x24, 0x25, 0x26, 0x27, 0x2A, 0x2B, 0x2D, 0x2E, 0x5E, 0x5F, 0x60, 0x7C, 0x7E]

/-- The characters of names. -/
def isNameChar (c : Char) : Bool :=
  c.isAlphanum || nameSigns.contains c.toNat

/-- The characters of headers: the space and the visible ones of ASCII. -/
def isHeaderChar (c : Char) : Bool :=
  0x20 ≤ c.toNat && c.toNat ≤ 0x7E

/-! ## Parameters -/

/-- Where in the parameters a character stands. -/
inductive Position where
  /-- Before a parameter, or at the end. -/
  | between
  | name
  | afterEquals
  | value
  /-- At the first character between quotes, whatever it is. -/
  | quoteOpened
  | quoted
  | quoteClosed
deriving DecidableEq, Repr

/-- Moves on over a character; absent if it must not stand there. -/
def Position.step? : Position → Char → Option Position
  | .between, c => if c = ' ' then some .between else if isNameChar c then some .name else none
  | .name, c => if c = '=' then some .afterEquals else if isNameChar c then some .name else none
  | .afterEquals, c =>
    if c = '"' then some .quoteOpened else if isNameChar c then some .value else none
  | .value, c => if c = ';' then some .between else if isNameChar c then some .value else none
  | .quoteOpened, _ => some .quoted
  | .quoted, c => if c = '"' then some .quoteClosed else some .quoted
  | .quoteClosed, c =>
    if c = ';' then some .between else if c = ' ' then some .quoteClosed else none

/-- Where parameters may end. A value may be empty. -/
def Position.mayEnd : Position → Bool
  | .between | .afterEquals | .value | .quoteClosed => true
  | .name | .quoteOpened | .quoted => false

/-- Whether what follows the subtype is well formed: nothing, or a semicolon and parameters. -/
def areParameters : List Char → Bool
  | [] => true
  | c :: rest => c == ';' && ((rest.foldlM Position.step? .between).any Position.mayEnd)

/-! ## Types -/

/-- Takes the suffix off a subtype. A plus sign in front starts none. -/
def splitSuffix (subtype : List Char) : List Char × Option (List Char) :=
  let suffix := (subtype.reverse.takeWhile (· ≠ '+')).reverse
  let stem := subtype.take (subtype.length - suffix.length - 1)
  if stem = [] then (subtype, none) else (stem, some suffix)

/-- The type that a header names, absent if it is not well formed. -/
def ofText? (header : String) : Option MediaType :=
  let text := header.toList.map Char.toLower
  let kind := text.takeWhile isNameChar
  match text.dropWhile isNameChar with
  | '/' :: rest =>
    let subtype := rest.takeWhile isNameChar
    if kind ≠ [] ∧ subtype ≠ [] ∧ text.all isHeaderChar ∧
        areParameters (rest.dropWhile isNameChar) then
      let (stem, suffix) := splitSuffix subtype
      some { kind, subtype := stem, suffix }
    else none
  | _ => none

/-- The subtype of JSON. -/
def json : List Char := ['j', 's', 'o', 'n']

/-- Whether a type is JSON, or says with its suffix that it is JSON underneath. -/
def isJson (type : MediaType) : Bool :=
  type.kind == "application".toList && (type.subtype == json || type.suffix == some json)

end MediaType

end GameShelf.Backend
