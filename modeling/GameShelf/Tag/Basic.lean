import GameShelf.Decode.Reader
import GameShelf.Library.Notice

/-!
# Closed sets of tags

Servers describe kinds, platforms and colours in free text. Each such field has a closed set of
tags and a table of the texts that stand for them. Texts are compared without regard to case
and to what separates their words.

* `Tag`: a closed set with its table.
* `Tag.find?`: the tag that a text stands for.
* `Tag.take`, `Tag.takeOptional`: the tag of an optional text, with a notice for a text that
  is not in the table.
* `Tag.read`: reads the exact wire text of a tag.

## Terms

These go by other names in the interface of the service:

* `Tag.find?`, `Tag.keyOf`: `lookup`, `normalize`.
* `Tag.take`, `Tag.takeOptional`: `map_tag`, `map_optional_tag`.
-/

namespace GameShelf

/-- Whether a text is in ASCII. -/
def Tag.isAscii (text : String) : Bool :=
  text.toList.all fun c => c.toNat < 128

/-- A closed set of tags. -/
class Tag (α : Type) where
  /-- The tags in order of declaration. -/
  all : List α
  /-- The field that notices name. -/
  field : String
  /-- The text of a tag on the wire. -/
  wire : α → String
  /-- The texts that stand for tags, in lower case with single spaces between words. -/
  table : List (String × α)
  /-- They are in ASCII. -/
  table_ascii : (table.all fun entry => Tag.isAscii entry.1) = true

namespace Tag

variable {α : Type} [Tag α]

/-! ## Comparing texts -/

/-- The lower case of a character, as far as a table can tell: tables are in ASCII
(`table_ascii`), and the Kelvin sign is the one character outside ASCII whose lower case is an
ASCII letter. -/
def lower (c : Char) : Char :=
  if c = '\u212a' then 'k' else c.toLower

/-- What separates the words of a text. -/
def separates (c : Char) : Bool :=
  Text.isBlank c || c == '-' || c == '_'

/-- The words of a text in lower case, with single spaces between them. -/
def keyOf (text : String) : String :=
  String.intercalate " "
    ((Text.splitRuns separates [] (text.toList.map lower)).map String.ofList)

/-- The tag that a text stands for. -/
def find? (text : String) : Option α :=
  (table : List (String × α)).lookup (keyOf text)

/-! ## Tags of optional texts -/

/-- The notice about a text that is not in the table. -/
def unknown (α : Type) [Tag α] (raw fallback : String) : Notice :=
  .unknownTag (field α) raw fallback

/-- The tag of a text, or the fallback. An absent or blank text takes the fallback silently. -/
def take (fallback : α) (raw : Option String) : Noted α :=
  match Text.trimToSome raw with
  | none => pure fallback
  | some text =>
    match find? text with
    | some tag => pure tag
    | none => ⟨fallback, [unknown α text (wire fallback)]⟩

/-- The tag of a text, absent if there is none. -/
def takeOptional (α : Type) [Tag α] (raw : Option String) : Noted (Option α) :=
  match Text.trimToSome raw with
  | none => pure none
  | some text =>
    match find? text with
    | some tag => pure (some tag)
    | none => ⟨none, [unknown α text "none"]⟩

/-! ## Wire texts -/

/-- The tag with a wire text. -/
def ofWire (text : String) : Except DecodeError α :=
  match (all : List α).find? fun tag => wire tag == text with
  | some tag => .ok tag
  | none => .error (.unknownTag text ((all : List α).map wire))

/-- Reads a tag: its wire text, or a record with that text as its only key and null. -/
def read : Decode.Reader α
  | .text text => ofWire text
  | .record [(key, value)] => do
    let tag ← ofWire key
    match value with
    | .null => return tag
    | other => Decode.refuse other .nothing
  | .record _ => .error (.wrongValue .record .singleKey)
  | other => Decode.refuse other .choice

end Tag

end GameShelf
