import GameShelf.Binary64.Shortest

/-!
# Doubles as text

Two ways of writing a double and one of reading it.

* `Binary64.scientificText?`: the form used in JSON, with an exponent for very large and very
  small numbers and `.0` after whole ones.
* `Binary64.plainText`: positional digits throughout, as used in links.
* `Binary64.ofText?`: reads an optionally signed decimal number, correctly rounded, and the
  words for infinity and for what is not a number.
-/

namespace GameShelf.Binary64

/-! ## Writing -/

/-- A minus sign if the sign is set. -/
def signText (negative : Bool) (digits : List Char) : List Char :=
  if negative then '-' :: digits else digits

/-- The digits of `0.d₁d₂… * 10 ^ point` in positional form, without a point when the number
is whole. -/
def Decimal.positional (d : Decimal) : List Char :=
  if d.point ≤ 0 then '0' :: '.' :: (List.replicate (-d.point).toNat '0' ++ d.digits)
  else
    let whole := d.point.toNat
    if d.digits.length ≤ whole then d.digits ++ List.replicate (whole - d.digits.length) '0'
    else d.digits.take whole ++ '.' :: d.digits.drop whole

/-- One digit, the other digits after a point if there are any, and the exponent with its
sign. -/
def Decimal.scientific (d : Decimal) : List Char :=
  let power := d.point - 1
  let exponent := (if power < 0 then '-' else '+') :: Nat.toDigits 10 power.natAbs
  match d.digits with
  | [] => []
  | [first] => first :: 'e' :: exponent
  | first :: others => first :: '.' :: others ++ 'e' :: exponent

/-- Adds `.0` to digits without a point. -/
def withFraction (digits : List Char) : List Char :=
  if '.' ∈ digits then digits else digits ++ ['.', '0']

/-- The JSON form of a finite double: positional with a fraction while the point stands at
most four places before the first digit and at most sixteen after it, else scientific. -/
def scientificText? : Binary64 → Option String
  | .finite negative 0 _ => some (String.ofList (signText negative ['0', '.', '0']))
  | .finite negative significand exponent =>
    let d := shortest .toEven significand exponent
    let digits :=
      if -5 < d.point ∧ d.point ≤ 16 then withFraction d.positional else d.scientific
    some (String.ofList (signText negative digits))
  | _ => none

/-- The positional form of any double, never with an exponent. -/
def plainText : Binary64 → String
  | .finite negative 0 _ => String.ofList (signText negative ['0'])
  | .finite negative significand exponent =>
    String.ofList (signText negative (shortest .upward significand exponent).positional)
  | .infinite negative => String.ofList (signText negative ['i', 'n', 'f'])
  | .notANumber => "NaN"

/-! ## Reading -/

/-- The number written by decimal digits, the first one leading. -/
def natOfDigits (digits : List Char) : Nat :=
  digits.foldl (fun n c => n * 10 + (c.toNat - '0'.toNat)) 0

/-- The double nearest to `coefficient * 10 ^ power`. Powers beyond the range of every double
with that many digits are not computed. -/
def ofDecimal (negative : Bool) (coefficient : Nat) (power : Int) : Binary64 :=
  if coefficient = 0 then zero negative
  else
    let leading := power + digitCount coefficient
    if 310 < leading then .infinite negative
    else if leading < -330 then zero negative
    else if 0 ≤ power then ofRatio negative (coefficient * tenTo power.toNat) 1
    else ofRatio negative coefficient (tenTo (-power).toNat)

/-- Splits off a sign; the first part says whether it is a minus. -/
def splitSign : List Char → Bool × List Char
  | '-' :: rest => (true, rest)
  | '+' :: rest => (false, rest)
  | rest => (false, rest)

/-- The exponent after the digits: none at the end of the text, else `e` and a signed whole
number to the end. -/
def exponentOf? : List Char → Option Int
  | [] => some 0
  | c :: rest =>
    if c = 'e' ∨ c = 'E' then
      let (negative, digits) := splitSign rest
      if digits ≠ [] ∧ digits.all Char.isDigit then
        some (if negative then -(natOfDigits digits : Int) else natOfDigits digits)
      else none
    else none

/-- Digits with an optional point among, before or after them, and an optional exponent. -/
def unsignedOf? (negative : Bool) (text : List Char) : Option Binary64 :=
  let whole := text.takeWhile Char.isDigit
  let afterWhole := text.dropWhile Char.isDigit
  let (fraction, rest) :=
    match afterWhole with
    | '.' :: tail => (tail.takeWhile Char.isDigit, tail.dropWhile Char.isDigit)
    | tail => ([], tail)
  let digits := whole ++ fraction
  if digits = [] then none
  else (exponentOf? rest).map fun exponent =>
    ofDecimal negative (natOfDigits digits) (exponent - fraction.length)

/-- Reads a decimal number or one of the words `inf`, `infinity` and `nan` in any case. -/
def ofText? (text : String) : Option Binary64 :=
  let (negative, body) := splitSign text.toList
  let word := String.ofList (body.map Char.toLower)
  if word = "inf" ∨ word = "infinity" then some (.infinite negative)
  else if word = "nan" then some .notANumber
  else unsignedOf? negative body

end GameShelf.Binary64
