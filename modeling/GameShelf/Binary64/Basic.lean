/-!
# Binary floating-point numbers of 64 bits

Amounts and coordinates are doubles. They are kept exactly, as a whole significand and a
power of two, so that rounding, comparing and printing are arithmetic on natural numbers.

* `Binary64`: a finite number, an infinity or the value that is not a number.
* `Binary64.ofRatio`: the double nearest to a quotient, ties to the even significand.
* `Binary64.timesPowerOfTen`, `Binary64.overPowerOfTen`: one multiplication or division by a
  rounded power of ten, rounded once.
* `Binary64.whole?`: the value of a double that is a natural number.
-/

namespace GameShelf

/-- A double. The finite number with significand `s` and exponent `e` has the magnitude
`s * 2 ^ e / 2 ^ 1074`. Every magnitude is written with the least exponent that keeps its
significand below `2 ^ 53`, so equal numbers of equal sign have equal fields. -/
inductive Binary64 where
  | finite (negative : Bool) (significand exponent : Nat)
  | infinite (negative : Bool)
  | notANumber
deriving DecidableEq, Repr

namespace Binary64

/-! ## Powers -/

/-- `2 ^ k`. -/
def twoTo (k : Nat) : Nat := Nat.pow 2 k

/-- `10 ^ k`. -/
def tenTo (k : Nat) : Nat := Nat.pow 10 k

/-! ## Rounding -/

/-- The count of binary digits of a number, none for zero. -/
def bitLength (n : Nat) : Nat :=
  if n = 0 then 0 else Nat.log2 n + 1

/-- The whole number nearest to `num / den`; halfway, the even one. -/
def roundHalfEven (num den : Nat) : Nat :=
  let below := num / den
  let rest := num % den
  if 2 * rest < den then below
  else if den < 2 * rest then below + 1
  else if below % 2 = 0 then below
  else below + 1

/-- The denominator of every finite magnitude. -/
def unit : Nat := twoTo 1074

/-- The greatest exponent of a finite double. -/
def maxExponent : Nat := 2045

/-- The double nearest to `scaled / den` over `unit`, ties to the even significand; a magnitude
too large for any finite double is an infinity. -/
def ofScaled (negative : Bool) (scaled den : Nat) : Binary64 :=
  let exponent := bitLength (scaled / den) - 53
  let significand := roundHalfEven scaled (den * twoTo exponent)
  let (significand, exponent) :=
    if significand = twoTo 53 then (twoTo 52, exponent + 1) else (significand, exponent)
  if maxExponent < exponent then .infinite negative
  else .finite negative significand exponent

/-- The double nearest to `num / den`. -/
def ofRatio (negative : Bool) (num den : Nat) : Binary64 :=
  ofScaled negative (num * unit) den

/-- The double nearest to a natural number. -/
def ofNat (n : Nat) : Binary64 :=
  ofRatio false n 1

/-- The double nearest to an integer; zero is positive. -/
def ofInt (z : Int) : Binary64 :=
  ofRatio (decide (z < 0)) z.natAbs 1

/-- Zero with a sign. -/
def zero (negative : Bool) : Binary64 :=
  .finite negative 0 0

/-! ## Views -/

/-- The numerator of a finite magnitude over `unit`, and zero for the other values. -/
def scaled : Binary64 → Nat
  | .finite _ significand exponent => significand * twoTo exponent
  | _ => 0

/-- Neither an infinity nor the value that is not a number. -/
def isFinite : Binary64 → Bool
  | .finite .. => true
  | _ => false

/-- Zero of either sign. -/
def isZero : Binary64 → Bool
  | .finite _ significand _ => significand == 0
  | _ => false

/-- Whether the sign is set. -/
def isNegative : Binary64 → Bool
  | .finite negative .. => negative
  | .infinite negative => negative
  | .notANumber => false

/-- The value of a number that is at least zero and has no fractional part; negative zero is
zero. -/
def whole? : Binary64 → Option Nat
  | .finite negative significand exponent =>
    let numerator := significand * twoTo exponent
    if numerator % unit = 0 ∧ (negative = false ∨ numerator = 0) then some (numerator / unit)
    else none
  | _ => none

/-- Whether a number lies between `-bound` and `bound`, both included. -/
def isWithin (x : Binary64) (bound : Nat) : Bool :=
  x.isFinite && decide (x.scaled ≤ bound * unit)

/-! ## Scaling by powers of ten -/

/-- The double nearest to `10 ^ k`. -/
def powerOfTen (k : Nat) : Binary64 :=
  ofNat (tenTo k)

/-- The product of a finite number and the double nearest to `10 ^ k`, rounded once. -/
def timesPowerOfTen (x : Binary64) (k : Nat) : Binary64 :=
  ofRatio x.isNegative (x.scaled * (powerOfTen k).scaled) (unit * unit)

/-- The quotient of a finite number and the double nearest to `10 ^ k`, rounded once. -/
def overPowerOfTen (x : Binary64) (k : Nat) : Binary64 :=
  ofRatio x.isNegative x.scaled (powerOfTen k).scaled

end Binary64

end GameShelf
