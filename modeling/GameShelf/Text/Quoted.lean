import GameShelf.Text.DefaultIgnorable
import GameShelf.Text.GraphemeExtend
import GameShelf.Text.Printable

/-!
# Quoted text

Messages quote text that came from outside, so that it can be told from the words around it:
in double quotes, with an escape for each character that would not be seen as itself.

* `isSeen`: whether a character stands for itself between quotes.
* `quoted`: the quoted form of a text.
-/

namespace GameShelf.Text

/-- The digits of a code point in an escape, without leading zeros. -/
def codePointDigits (c : Char) : List Char :=
  Nat.toDigits 16 c.toNat

/-- Whether a character is seen as itself wherever it stands: it is printable, does not combine
with the one before it, and leaves a mark of its own. -/
def isSeen (c : Char) : Bool :=
  isPrintable c && !combines c && !isDefaultIgnorable c

/-- The form of one character between quotes. -/
def quotedChar (c : Char) : List Char :=
  match c with
  | '\t' => ['\\', 't']
  | '\r' => ['\\', 'r']
  | '\n' => ['\\', 'n']
  | '\x00' => ['\\', '0']
  | '\\' => ['\\', '\\']
  | '"' => ['\\', '"']
  | _ =>
    if isSeen c then [c]
    else ['\\', 'u', '\x7b'] ++ codePointDigits c ++ ['\x7d']

/-- A text in double quotes, with escapes for quotes, backslashes and all that is not shown as
itself. -/
def quoted (text : String) : String :=
  String.ofList ('"' :: (text.toList.flatMap quotedChar ++ ['"']))

end GameShelf.Text
