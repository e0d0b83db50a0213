/-!
# Default ignorable characters

The Unicode property Default_Ignorable_Code_Point: characters that leave no mark where they
stand, such as joiners, variation selectors and the fillers among the Hangul letters. The table
lists them as closed ranges in ascending order; no ASCII character is among them.

* `isDefaultIgnorable`: membership in the table.
-/

namespace GameShelf.Text

/-- The ranges of code points with the property. -/
def defaultIgnorableRanges : List (Nat × Nat) :=
  [
    (0xAD, 0xAD), (0x34F, 0x34F), (0x61C, 0x61C), (0x115F, 0x1160), (0x17B4, 0x17B5),
    (0x180B, 0x180F), (0x200B, 0x200F), (0x202A, 0x202E), (0x2060, 0x206F), (0x3164, 0x3164),
    (0xFE00, 0xFE0F), (0xFEFF, 0xFEFF), (0xFFA0, 0xFFA0), (0xFFF0, 0xFFF8), (0x1BCA0, 0x1BCA3),
    (0x1D173, 0x1D17A), (0xE0000, 0xE0FFF)]

/-- Whether a character leaves no mark where it stands. -/
def isDefaultIgnorable (c : Char) : Bool :=
  let n := c.toNat
  decide (0xAD ≤ n) &&
    defaultIgnorableRanges.any fun range => decide (range.1 ≤ n) && decide (n ≤ range.2)

end GameShelf.Text
