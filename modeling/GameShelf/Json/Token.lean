import GameShelf.Json.Number
import GameShelf.Text.Utf8

/-!
# JSON tokens

The characters of a JSON text are read one at a time into brackets, separators, strings and
other scalars. A word ends with its last letter, a number at the first character that cannot
continue it. The spelling of a token is settled apart from its value: half of a surrogate pair
on its own, a byte in a string that belongs to no character, and a number beyond all doubles are
spelled as they should be and have no value.

* `Json.Token`: the tokens.
* `Json.tokens`: the tokens of a text, up to the first characters that are none.
* `Json.tokensOfBytes`: the same for bytes.
-/

namespace GameShelf.Json

/-- A piece of JSON text. -/
inductive Token where
  | openList
  | closeList
  | openRecord
  | closeRecord
  | comma
  | colon
  /-- A string, with its value unless what it spells is no text. -/
  | text (value : Option String)
  /-- A word or number, with its value unless it is a number beyond all doubles. -/
  | scalar (value : Option Json)
  /-- Characters that are no token. Nothing is read after them. -/
  | fault
deriving Repr

/-! ## Spelling -/

/-- The blanks between tokens. -/
def isGap (c : Char) : Bool :=
  c == ' ' || c == '\t' || c == '\n' || c == '\r'

/-- How far a number has been read. -/
inductive NumberStage where
  | sign
  | zero
  | whole
  | point
  | fraction
  | exponentMark
  | exponentSign
  | exponent
deriving DecidableEq, Repr

namespace NumberStage

/-- Whether a number may end here. -/
def mayEnd : NumberStage → Bool
  | .zero | .whole | .fraction | .exponent => true
  | _ => false

/-- The stage that a letter opens after the digits of a fraction. -/
def ofMark? (c : Char) : Option NumberStage :=
  if c = 'e' ∨ c = 'E' then some .exponentMark else none

/-- The stage that a character opens after the digits before the point. -/
def ofPoint? (c : Char) : Option NumberStage :=
  if c = '.' then some .point else ofMark? c

/-- The stage after one more character; absent if the character does not continue the
number. -/
def next? (stage : NumberStage) (c : Char) : Option NumberStage :=
  match stage with
  | .sign => if c = '0' then some .zero else if c.isDigit then some .whole else none
  | .zero => ofPoint? c
  | .whole => if c.isDigit then some .whole else ofPoint? c
  | .point => if c.isDigit then some .fraction else none
  | .fraction => if c.isDigit then some .fraction else ofMark? c
  | .exponentMark =>
    if c = '+' ∨ c = '-' then some .exponentSign
    else if c.isDigit then some .exponent
    else none
  | .exponentSign | .exponent => if c.isDigit then some .exponent else none

/-- The stage after the first character of a number. -/
def start? (c : Char) : Option NumberStage :=
  if c = '-' then some .sign else sign.next? c

end NumberStage

/-- The value of a hexadecimal digit. -/
def hexDigit? (c : Char) : Option Nat :=
  if c.isDigit then some (c.toNat - '0'.toNat)
  else if 'a' ≤ c ∧ c ≤ 'f' then some (c.toNat - 'a'.toNat + 10)
  else if 'A' ≤ c ∧ c ≤ 'F' then some (c.toNat - 'A'.toNat + 10)
  else none

/-- The character that a one-letter escape stands for. -/
def unescape? (c : Char) : Option Char :=
  match c with
  | '"' => some '"'
  | '\\' => some '\\'
  | '/' => some '/'
  | 'b' => some '\x08'
  | 'f' => some '\x0c'
  | 'n' => some '\n'
  | 'r' => some '\r'
  | 't' => some '\t'
  | _ => none

/-! ## Values of strings -/

/-- Whether a code is the first half of a surrogate pair. -/
def isHighHalf (code : Nat) : Bool :=
  0xD800 ≤ code && code ≤ 0xDBFF

/-- Whether a code is the second half of a surrogate pair. -/
def isLowHalf (code : Nat) : Bool :=
  0xDC00 ≤ code && code ≤ 0xDFFF

/-- The character of a surrogate pair. -/
def pairedChar (high low : Nat) : Char :=
  Char.ofNat (0x10000 + (high - 0xD800) * 0x400 + (low - 0xDC00))

/-- The code that stands for a byte that belongs to no character. -/
def gapCode : Nat := 0x110000

/-- The character with a code, if there is one. -/
def charOfCode? (code : Nat) : Option Char :=
  if code.isValidChar then some (Char.ofNat code) else none

/-- The characters that the codes of a string spell; absent if half of a surrogate pair stands
alone or a code is no character's. -/
def charsOfCodes? : List Nat → Option (List Char)
  | [] => some []
  | [code] => (charOfCode? code).map fun c => [c]
  | code :: next :: rest =>
    if isHighHalf code then
      if isLowHalf next then (charsOfCodes? rest).map (pairedChar code next :: ·) else none
    else
      match charOfCode? code with
      | some c => (charsOfCodes? (next :: rest)).map (c :: ·)
      | none => none

/-- The string with the given codes, last one first. -/
def textToken (codes : List Nat) : Token :=
  .text ((charsOfCodes? codes.reverse).map String.ofList)

/-! ## Reading characters -/

/-- What the characters read so far leave open. The parts of an unfinished token are kept last
one first. -/
inductive Scan where
  | between
  /-- Inside a word, before the letters that are left of it. -/
  | word (left : List Char) (value : Json)
  | number (stage : NumberStage) (read : List Char)
  /-- Inside a string, with the codes of its characters. -/
  | text (codes : List Nat)
  | escape (codes : List Nat)
  /-- Inside `\u`, with the code read from the digits so far. -/
  | unicode (codes : List Nat) (digits code : Nat)
  /-- After characters that are no token. -/
  | stopped
deriving Repr

/-- The tokens found so far, last one first, and what is left open. -/
structure Scanner where
  found : List Token
  scan : Scan
deriving Repr

namespace Scanner

/-- Adds a finished token. -/
def emit (found : List Token) (token : Token) : Scanner :=
  ⟨token :: found, .between⟩

/-- Stops at characters that are no token. -/
def stop (found : List Token) : Scanner :=
  ⟨.fault :: found, .stopped⟩

/-- The number that ends here. -/
def numberToken (read : List Char) : Token :=
  .scalar ((JsonNumber.ofChars? read.reverse).map .number)

/-- Reads a character that starts a token or stands between two. -/
def start (found : List Token) (c : Char) : Scanner :=
  if isGap c then ⟨found, .between⟩
  else if c = '[' then emit found .openList
  else if c = ']' then emit found .closeList
  else if c = '\x7b' then emit found .openRecord
  else if c = '\x7d' then emit found .closeRecord
  else if c = ',' then emit found .comma
  else if c = ':' then emit found .colon
  else if c = '"' then ⟨found, .text []⟩
  else if c = 'n' then ⟨found, .word ['u', 'l', 'l'] .null⟩
  else if c = 't' then ⟨found, .word ['r', 'u', 'e'] (.flag true)⟩
  else if c = 'f' then ⟨found, .word ['a', 'l', 's', 'e'] (.flag false)⟩
  else
    match NumberStage.start? c with
    | some stage => ⟨found, .number stage [c]⟩
    | none => stop found

/-- Reads a letter of a word. -/
def stepWord (found : List Token) (left : List Char) (value : Json) (c : Char) : Scanner :=
  match left with
  | [] => stop found
  | [last] => if c = last then emit found (.scalar (some value)) else stop found
  | next :: left => if c = next then ⟨found, .word left value⟩ else stop found

/-- Reads a character of a number or the first one after it. A digit that does not continue the
number cannot follow it either. -/
def stepNumber (found : List Token) (stage : NumberStage) (read : List Char) (c : Char) :
    Scanner :=
  match stage.next? c with
  | some next => ⟨found, .number next (c :: read)⟩
  | none =>
    if stage.mayEnd && !c.isDigit then start (numberToken read :: found) c else stop found

/-- Reads a character of a string. -/
def stepText (found : List Token) (codes : List Nat) (c : Char) : Scanner :=
  if c = '"' then emit found (textToken codes)
  else if c = '\\' then ⟨found, .escape codes⟩
  else if c.toNat < 0x20 then stop found
  else ⟨found, .text (c.toNat :: codes)⟩

/-- Reads the character after a backslash. -/
def stepEscape (found : List Token) (codes : List Nat) (c : Char) : Scanner :=
  if c = 'u' then ⟨found, .unicode codes 0 0⟩
  else
    match unescape? c with
    | some plain => ⟨found, .text (plain.toNat :: codes)⟩
    | none => stop found

/-- Reads one of the four digits of a `\u` escape. -/
def stepUnicode (found : List Token) (codes : List Nat) (digits code : Nat) (c : Char) :
    Scanner :=
  match hexDigit? c with
  | none => stop found
  | some digit =>
    let code := code * 16 + digit
    if digits < 3 then ⟨found, .unicode codes (digits + 1) code⟩
    else ⟨found, .text (code :: codes)⟩

/-- Reads one character. -/
def step (s : Scanner) (c : Char) : Scanner :=
  match s.scan with
  | .between => start s.found c
  | .word left value => stepWord s.found left value c
  | .number stage read => stepNumber s.found stage read c
  | .text codes => stepText s.found codes c
  | .escape codes => stepEscape s.found codes c
  | .unicode codes digits code => stepUnicode s.found codes digits code c
  | .stopped => s

/-- Reads a byte that belongs to no character. Only inside a string it is no fault. -/
def stepGap (s : Scanner) : Scanner :=
  match s.scan with
  | .text codes => ⟨s.found, .text (gapCode :: codes)⟩
  | .stopped => s
  | .number stage read =>
    if stage.mayEnd then stop (numberToken read :: s.found) else stop s.found
  | _ => stop s.found

/-- Reads a character, or a byte that belongs to none. -/
def stepOrGap (s : Scanner) (c : Option Char) : Scanner :=
  match c with
  | some c => s.step c
  | none => s.stepGap

/-- The tokens at the end of a text, last one first. A token that is not finished is none. -/
def finish (s : Scanner) : List Token :=
  match s.scan with
  | .between | .stopped => s.found
  | .number stage read =>
    if stage.mayEnd then numberToken read :: s.found else .fault :: s.found
  | _ => .fault :: s.found

end Scanner

/-- The tokens of a text. -/
def tokens (text : String) : List Token :=
  (text.toList.foldl Scanner.step ⟨[], .between⟩).finish.reverse

/-- The tokens of bytes. -/
def tokensOfBytes (bytes : List UInt8) : List Token :=
  ((Text.charsOfBytes bytes).foldl Scanner.stepOrGap ⟨[], .between⟩).finish.reverse

end GameShelf.Json
