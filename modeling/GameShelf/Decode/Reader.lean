import GameShelf.Decode.Error
import GameShelf.Text.Blank
import GameShelf.Text.Whole

/-!
# Decoding scalars and lists

A reader turns a JSON value into a value of the program or says why it cannot.

* `Decode.text`, `Decode.flag`, `Decode.word64`, `Decode.word32`, `Decode.double`: scalars.
* `Decode.nullable`, `Decode.listOf`: readers made from others.
* `Decode.amount`, `Decode.count`: numbers that may also come as text, and that count as
  absent when they cannot be used.

## Terms

These go by other names in the interface of the service:

* `Decode.amount`, `Decode.count`: `lenient_amount`, `lenient_count`.
-/

namespace GameShelf.Decode

/-- A way to read values of a type. -/
abbrev Reader (α : Type) := Json → Except DecodeError α

/-- The fault of a value of the wrong kind. -/
def refuse {α : Type} (value : Json) (expected : Expected) : Except DecodeError α :=
  .error (.wrongType (Found.ofJson value) expected)

/-! ## Scalars -/

/-- Reads a text. -/
def text : Reader String
  | .text value => .ok value
  | other => refuse other .text

/-- Reads a truth value. -/
def flag : Reader Bool
  | .flag value => .ok value
  | other => refuse other .flag

/-- Reads a natural number below a bound. -/
def natBelow (bound : Nat) (expected : Expected) : Reader Nat
  | .number (.integer z) =>
    if 0 ≤ z ∧ z < bound then .ok z.toNat
    else .error (.wrongValue (.number (.integer z)) expected)
  | other => refuse other expected

/-- Reads a natural number of 64 bits. -/
def word64 : Reader Nat :=
  natBelow UInt64.size .word64

/-- Reads a natural number of 32 bits. -/
def word32 : Reader UInt32 := fun value =>
  (natBelow UInt32.size .word32 value).map UInt32.ofNat

/-- Reads any number as a double. -/
def double : Reader Binary64
  | .number n => .ok n.toBinary64
  | other => refuse other .double

/-! ## Readers made from others -/

/-- Reads null as absent. -/
def nullable {α : Type} (read : Reader α) : Reader (Option α)
  | .null => .ok none
  | value => (read value).map some

/-- Reads the items of a list from left to right, up to the first fault. -/
def items {α : Type} (read : Reader α) : List Json → Except DecodeError (List α)
  | [] => .ok []
  | item :: rest => do
    let first ← read item
    let others ← items read rest
    return first :: others

/-- Reads a list. -/
def listOf {α : Type} (read : Reader α) : Reader (List α)
  | .list values => items read values
  | other => refuse other .list

/-! ## Numbers that may come as text -/

/-- A number, or text that may hold one. -/
inductive NumberOrText where
  | number (value : Binary64)
  | text (value : String)
deriving DecidableEq, Repr

/-- Reads a number, a text or null. -/
def numberOrText : Reader (Option NumberOrText)
  | .null => .ok none
  | .number n => .ok (some (.number n.toBinary64))
  | .text value => .ok (some (.text value))
  | _ => .error .neitherNumberNorText

/-- The finite amount that a number or its text stands for. -/
def NumberOrText.amount? : NumberOrText → Option Binary64
  | .number x => if x.isFinite then some x else none
  | .text value => (Binary64.ofText? (Text.trim value)).filter Binary64.isFinite

/-- The count that a number or its text stands for. A number counts if it is whole and not
negative; beyond 64 bits it is cut off at the greatest word. -/
def NumberOrText.count? : NumberOrText → Option UInt64
  | .number x => x.whole?.map fun n => UInt64.ofNat (min n (UInt64.size - 1))
  | .text value => (Text.readWhole (Text.trim value)).toOption.map UInt64.ofNat

/-- Reads an amount, absent if it is unusable. -/
def amount : Reader (Option Binary64) := fun value =>
  (numberOrText value).map fun found => found.bind NumberOrText.amount?

/-- Reads a count, absent if it is unusable. -/
def count : Reader (Option UInt64) := fun value =>
  (numberOrText value).map fun found => found.bind NumberOrText.count?

end GameShelf.Decode
