import GameShelf.Binary64.Text
import GameShelf.Json.Basic

/-!
# Numbers in JSON text

A number without fraction and exponent that fits a 64-bit word is an integer; all others are
doubles. The double is found from as many leading digits as fit a 64-bit word, rounded, and
then scaled by a rounded power of ten: two roundings, so its last bit may differ from that of
the nearest double.

* `JsonNumber.ofChars?`: the number that a run of characters writes.
* `JsonNumber.chars`: the characters of a number.
-/

namespace GameShelf.JsonNumber

open Binary64 (zero ofRatio natOfDigits)

/-! ## Reading -/

/-- The bound of the leading digits that are taken as they stand. -/
def wordLimit : Nat := UInt64.size

/-- Appends digits to a number while it stays below `wordLimit`; the digits from the first one
on that does not fit are returned. -/
def takeDigits (read : Nat) : List Char → Nat × List Char
  | [] => (read, [])
  | c :: rest =>
    let next := read * 10 + (c.toNat - '0'.toNat)
    if next < wordLimit then takeDigits next rest else (read, c :: rest)

/-- Divides by `10 ^ power`, in steps of `10 ^ 308` while the power is greater. -/
def scaleDown (x : Binary64) (power : Nat) : Binary64 :=
  if power ≤ 308 then x.overPowerOfTen power
  else if x.isZero then x
  else scaleDown (x.overPowerOfTen 308) (power - 308)
termination_by power
decreasing_by omega

/-- The double of leading digits and a power of ten; absent if it is beyond all doubles. -/
def ofLeading? (negative : Bool) (leading : Nat) (power : Int) : Option Binary64 :=
  let x := ofRatio negative leading 1
  if power < 0 then some (scaleDown x power.natAbs)
  else if 308 < power then (if leading = 0 then some x else none)
  else
    let product := x.timesPowerOfTen power.toNat
    if product.isFinite then some product else none

/-- The exponent after `e`: an optional sign and digits to the end. -/
def exponentOf? (text : List Char) : Option Int :=
  let (negative, digits) := Binary64.splitSign text
  if digits ≠ [] ∧ digits.all Char.isDigit then
    some (if negative then -(natOfDigits digits : Int) else natOfDigits digits)
  else none

/-- The parts of a number: digits before the point, digits after it, and the exponent. -/
structure Parts where
  whole : List Char
  fraction : Option (List Char)
  exponent : Option Int

/-- Splits off the digits after a point, which need not be there but must not be missing after
one. -/
def splitFraction : List Char → Option (Option (List Char) × List Char)
  | '.' :: rest =>
    let digits := rest.takeWhile Char.isDigit
    if digits = [] then none else some (some digits, rest.dropWhile Char.isDigit)
  | rest => some (none, rest)

/-- Reads the exponent that may end a number. -/
def splitExponent : List Char → Option (Option Int)
  | [] => some none
  | c :: rest => if c = 'e' ∨ c = 'E' then (exponentOf? rest).map some else none

/-- Takes an unsigned number apart. More than one digit before the point do not start with
zero. -/
def Parts.ofChars? (text : List Char) : Option Parts := do
  let whole := text.takeWhile Char.isDigit
  if whole = [] ∨ (whole.length ≠ 1 ∧ whole.head? = some '0') then none
  else
    let (fraction, rest) ← splitFraction (text.dropWhile Char.isDigit)
    let exponent ← splitExponent rest
    return { whole, fraction, exponent }

/-- The number of an integer literal. Negative zero and integers beyond the words are
doubles. -/
def ofWhole? (negative : Bool) (digits : List Char) : Option JsonNumber :=
  match takeDigits 0 digits with
  | (n, []) =>
    if !negative then some (.integer n)
    else if n = 0 then some (.real (zero true))
    else if n ≤ wordLimit / 2 then some (.integer (-n))
    else some (.real (ofRatio true n 1))
  | (n, rest) => (ofLeading? negative n rest.length).map .real

/-- The number of an unsigned literal with a sign in front. -/
def ofParts? (negative : Bool) (parts : Parts) : Option JsonNumber :=
  match parts.fraction, parts.exponent with
  | none, none => ofWhole? negative parts.whole
  | fraction, exponent =>
    let digits := fraction.getD []
    let (leading, wholeLeft) := takeDigits 0 parts.whole
    let (leading, fractionLeft) := takeDigits leading digits
    let power : Int :=
      wholeLeft.length - (digits.length - fractionLeft.length : Int) + exponent.getD 0
    (ofLeading? negative leading power).map .real

/-- The number that a run of characters writes, if it is one. -/
def ofChars? : List Char → Option JsonNumber
  | '-' :: rest => (Parts.ofChars? rest).bind (ofParts? true)
  | text => (Parts.ofChars? text).bind (ofParts? false)

/-! ## Writing -/

/-- The characters of a number. A double that is not finite has no JSON form and is written as
null. -/
def chars : JsonNumber → List Char
  | .integer z =>
    if z < 0 then '-' :: Nat.toDigits 10 z.natAbs else Nat.toDigits 10 z.natAbs
  | .real x => (x.scientificText?.getD "null").toList

/-- A number as a double. -/
def toBinary64 : JsonNumber → Binary64
  | .integer z => Binary64.ofInt z
  | .real x => x

end GameShelf.JsonNumber
