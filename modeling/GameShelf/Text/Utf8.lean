/-!
# Texts and bytes

A text goes out as its bytes in UTF-8. Bytes that come in may be no UTF-8, in whole or only in
places.

* `Text.utf8`, `Text.ofUtf8?`: from a text to its bytes and back.
* `Text.charsOfBytes`: the characters of any bytes, with gaps where there are none.
-/

namespace GameShelf.Text

/-- The bytes of a text in UTF-8. -/
def utf8 (text : String) : List UInt8 :=
  text.toUTF8.data.toList

/-- The text with the given bytes in UTF-8, if there is one. -/
def ofUtf8? (bytes : List UInt8) : Option String :=
  String.fromUTF8? ⟨bytes.toArray⟩

/-- The character with the given bytes in UTF-8, if they are one. -/
def charOfUtf8? (bytes : List UInt8) : Option Char :=
  match (ofUtf8? bytes).map String.toList with
  | some [c] => some c
  | _ => none

/-- The character that bytes begin with, and the count of its bytes. -/
def firstChar? (bytes : List UInt8) : Option (Char × Nat) :=
  [1, 2, 3, 4].findSome? fun count => (charOfUtf8? (bytes.take count)).map (·, count)

/-- The characters of bytes of which the first `inside` belong to a character before. A byte that
belongs to no character leaves a gap. -/
def charsFrom (inside : Nat) : List UInt8 → List (Option Char)
  | [] => []
  | byte :: rest =>
    match inside with
    | left + 1 => charsFrom left rest
    | 0 =>
      match firstChar? (byte :: rest) with
      | some (c, count) => some c :: charsFrom (count - 1) rest
      | none => none :: charsFrom 0 rest

/-- The characters of bytes. A byte that belongs to no character leaves a gap. -/
def charsOfBytes (bytes : List UInt8) : List (Option Char) :=
  charsFrom 0 bytes

end GameShelf.Text
