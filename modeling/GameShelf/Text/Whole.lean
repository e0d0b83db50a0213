/-!
# Whole numbers in text

Settings and counts may come as text. The text is an optional plus sign and ASCII digits, and
its value has to fit into 64 bits.

* `readWhole`: the number, or the first fault met from left to right.
-/

namespace GameShelf.Text

/-- The least number that no count or setting reaches. -/
def wholeLimit : Nat := UInt64.size

/-- Why a text is no whole number. -/
inductive WholeFault where
  | empty
  | invalidDigit
  | tooLarge
deriving DecidableEq, Repr

/-- The wording of a fault. -/
def WholeFault.message : WholeFault → String
  | .empty => "cannot parse integer from empty string"
  | .invalidDigit => "invalid digit found in string"
  | .tooLarge => "number too large to fit in target type"

/-- Reads digits after the ones with the value `read`. -/
def readWholeDigits (read : Nat) : List Char → Except WholeFault Nat
  | [] => .ok read
  | c :: rest =>
    if c.isDigit then
      let next := read * 10 + (c.toNat - '0'.toNat)
      if next < wholeLimit then readWholeDigits next rest else .error .tooLarge
    else .error .invalidDigit

/-- Reads a whole number below `wholeLimit`. -/
def readWhole (text : String) : Except WholeFault Nat :=
  match text.toList with
  | [] => .error .empty
  | ['+'] => .error .invalidDigit
  | '+' :: digits => readWholeDigits 0 digits
  | digits => readWholeDigits 0 digits

end GameShelf.Text
