import GameShelf.Text.Utf8

/-!
# Percent-encoding

An identifier becomes one segment of a path by writing every byte of its UTF-8 form that is
not plain as `%` and two hexadecimal digits. Reading undoes the escapes; what looks like an
escape and is none stays as it is.

* `encodeSegment`: the segment of an identifier.
* `decodeSegment?`: the text of a segment, absent if its bytes are not UTF-8.
-/

namespace GameShelf.Text

/-! ## Encoding -/

/-- The hexadecimal digit of a value below sixteen, in upper case. -/
def hexDigit (n : Nat) : Char :=
  if n < 10 then Char.ofNat ('0'.toNat + n) else Char.ofNat ('A'.toNat + (n - 10))

/-- The characters that a segment shows as themselves. -/
def isPlainInPath (c : Char) : Bool :=
  c.isAlphanum || c == '*' || c == '-' || c == '.' || c == '_'

/-- One byte of a segment. -/
def encodeByte (byte : UInt8) : List Char :=
  let c := Char.ofNat byte.toNat
  if isPlainInPath c then [c]
  else ['%', hexDigit (byte.toNat / 16), hexDigit (byte.toNat % 16)]

/-- A text as one segment of a path. -/
def encodeSegment (text : String) : String :=
  String.ofList ((utf8 text).flatMap encodeByte)

/-! ## Decoding -/

/-- The value of a hexadecimal digit of either case. -/
def hexValue? (c : Char) : Option Nat :=
  if c.isDigit then some (c.toNat - '0'.toNat)
  else if 'a' ≤ c ∧ c ≤ 'f' then some (c.toNat - 'a'.toNat + 10)
  else if 'A' ≤ c ∧ c ≤ 'F' then some (c.toNat - 'A'.toNat + 10)
  else none

/-- The value of a byte that stands for a hexadecimal digit. -/
def hexByte? (byte : UInt8) : Option Nat :=
  hexValue? (Char.ofNat byte.toNat)

/-- Undoes every escape in a sequence of bytes. -/
def decodeBytes : List UInt8 → List UInt8
  | [] => []
  | [a] => [a]
  | [a, b] => [a, b]
  | a :: b :: c :: rest =>
    match hexByte? b, hexByte? c with
    | some high, some low =>
      if a = '%'.toNat.toUInt8 then (16 * high + low).toUInt8 :: decodeBytes rest
      else a :: decodeBytes (b :: c :: rest)
    | _, _ => a :: decodeBytes (b :: c :: rest)

/-- The text that a segment of a path stands for. -/
def decodeSegment? (segment : String) : Option String :=
  ofUtf8? (decodeBytes (utf8 segment))

end GameShelf.Text
