import GameShelf.Json.Basic

/-!
# Key spellings

The wire spells keys with underscores (`parent_location_id`), the program without
(`parentLocationId`). Both directions respell the keys of records at every depth and leave all
other data alone. Where two keys of a record get the same spelling, the field that
stood later in the record stays.

* `toCamel`, `toSnake`: the two rules for one key.
* `Json.toInternal`, `Json.toWire`: the rules applied throughout a value.

## Terms

These go by other names in the interface of the service:

* `toCamel`, `toSnake`: `snake_to_camel`, `camel_to_snake`.
* `Json.toInternal`, `Json.toWire`: `to_internal`, `to_wire`.
-/

namespace GameShelf

/-! ## The rules for one key -/

/-- Replaces an underscore and the ASCII lower-case letter after it by the letter in upper
case; every other character stays. -/
def camelChars : List Char → List Char
  | [] => []
  | [c] => [c]
  | c :: next :: rest =>
    if c = '_' ∧ next.isLower then next.toUpper :: camelChars rest
    else c :: camelChars (next :: rest)

/-- Replaces an ASCII upper-case letter by an underscore and the letter in lower case; every
other character stays. -/
def snakeChars (cs : List Char) : List Char :=
  cs.flatMap fun c => if c.isUpper then ['_', c.toLower] else [c]

/-- The internal spelling of a wire key. -/
def toCamel (key : String) : String :=
  String.ofList (camelChars key.toList)

/-- The wire spelling of an internal key. -/
def toSnake (key : String) : String :=
  String.ofList (snakeChars key.toList)

namespace Json

/-! ## Whole values -/

mutual

/-- Respells every key of a value. -/
def mapKeys (respell : String → String) : Json → Json
  | .list items => .list (mapKeysItems respell items)
  | .record fields => .record (ofFields (mapKeysFields respell fields))
  | scalar => scalar

/-- Respells every key in the items of a list. -/
def mapKeysItems (respell : String → String) : List Json → List Json
  | [] => []
  | item :: rest => mapKeys respell item :: mapKeysItems respell rest

/-- Respells the keys of fields and every key in their values, in place. -/
def mapKeysFields (respell : String → String) : Fields → Fields
  | [] => []
  | (key, value) :: rest => (respell key, mapKeys respell value) :: mapKeysFields respell rest

end

/-- A wire value in internal spelling. -/
def toInternal (value : Json) : Json :=
  mapKeys toCamel value

/-- An internal value in wire spelling. -/
def toWire (value : Json) : Json :=
  mapKeys toSnake value

end Json

end GameShelf
