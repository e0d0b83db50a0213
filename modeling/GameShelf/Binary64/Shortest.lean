import GameShelf.Binary64.Basic

/-!
# Shortest decimal digits

A double is written with the fewest decimal digits that read back as it, and of the digit
strings of that length with the nearest. For each count of digits only the two neighbours of
the value on the decimal grid have to be tried: if any point of the grid reads back, one of
them does.

* `Binary64.Decimal`: digits and the place of the decimal point.
* `Binary64.shortest`: the digits of a positive finite magnitude.
-/

namespace GameShelf.Binary64

/-- The number `0.d₁d₂… * 10 ^ point`, with no zero at the end of the digits. -/
structure Decimal where
  digits : List Char
  point : Int
deriving DecidableEq, Repr

/-- Which of two equally near and equally short decimals is written. -/
inductive Tie where
  | toEven
  | upward
deriving DecidableEq, Repr

/-- The reals that round to a magnitude, as numerators over one denominator. The ends belong
to the interval when the significand is even. -/
structure Interval where
  low : Nat
  value : Nat
  high : Nat
  den : Nat
  closed : Bool
deriving DecidableEq, Repr

/-- The reals that round to `significand * 2 ^ exponent / 2 ^ 1074`. Below a power of two the
neighbouring double is half as far. -/
def interval (significand exponent : Nat) : Interval :=
  let step := twoTo exponent
  let below := if significand = twoTo 52 ∧ exponent ≠ 0 then 1 else 2
  { low := (4 * significand - below) * step
    value := 4 * significand * step
    high := (4 * significand + 2) * step
    den := 4 * unit
    closed := significand % 2 == 0 }

/-- The count of decimal digits of a positive number. -/
def digitCount (n : Nat) : Nat :=
  (Nat.toDigits 10 n).length

/-- The `k` with `10 ^ (k - 1) ≤ num / den < 10 ^ k`, for a positive quotient. -/
def magnitude (num den : Nat) : Int :=
  if den ≤ num then (digitCount (num / den) : Int)
  else 1 - (digitCount ((den + num - 1) / num - 1) : Int)

/-- The interval in units of `10 ^ (point - count)`: the grid of decimals with `count` digits
then holds the multiples of the denominator. -/
def Interval.onGrid (i : Interval) (point : Int) (count : Nat) : Interval :=
  if (count : Int) ≤ point then { i with den := i.den * tenTo (point - count).toNat }
  else
    let factor := tenTo ((count : Int) - point).toNat
    { i with low := i.low * factor, value := i.value * factor, high := i.high * factor }

/-- Whether the grid point `n` reads back as the number. -/
def Interval.contains (i : Interval) (n : Nat) : Bool :=
  if i.closed then decide (i.low ≤ n * i.den) && decide (n * i.den ≤ i.high)
  else decide (i.low < n * i.den) && decide (n * i.den < i.high)

/-- The nearer of two grid points that both read back. -/
def Interval.nearer (i : Interval) (tie : Tie) (n : Nat) : Nat :=
  let down := i.value - n * i.den
  let up := (n + 1) * i.den - i.value
  if down < up then n
  else if up < down then n + 1
  else match tie with
    | .upward => n + 1
    | .toEven => if n % 2 = 0 then n else n + 1

/-- The grid point that is written with the grid's count of digits, if one reads back. -/
def Interval.choose? (i : Interval) (tie : Tie) : Option Nat :=
  let n := i.value / i.den
  match i.contains n, i.contains (n + 1) with
  | true, true => some (i.nearer tie n)
  | true, false => some n
  | false, true => some (n + 1)
  | false, false => none

/-- The digits of the grid point `n` of the grid with `count` digits. -/
def Decimal.ofGrid (point : Int) (count n : Nat) : Decimal :=
  let digits := Nat.toDigits 10 n
  { digits := (digits.reverse.dropWhile (· == '0')).reverse
    point := point + digits.length - count }

/-- How many digits suffice for every double. -/
def maxDigits : Nat := 17

/-- The shortest digits of the positive magnitude `significand * 2 ^ exponent / 2 ^ 1074`. Beyond
the significands of doubles they end with the last digit that a double can have. -/
def shortest (tie : Tie) (significand exponent : Nat) : Decimal :=
  let i := interval significand exponent
  let point := magnitude i.value i.den
  let candidate (count : Nat) : Option Decimal :=
    ((i.onGrid point count).choose? tie).map (Decimal.ofGrid point count)
  let finest := i.onGrid point maxDigits
  ((List.range' 1 maxDigits).findSome? candidate).getD
    (Decimal.ofGrid point maxDigits (finest.value / finest.den + 1))

end GameShelf.Binary64
