import GameShelf.Json.Number

/-!
# JSON text

Values are written without blanks, fields in the order of the record. In strings only quotes,
backslashes and the characters below the space are escaped.

* `Json.write`: the text of a value.
-/

namespace GameShelf.Json

/-- The form of one character in a string. -/
def escapeChar (c : Char) : List Char :=
  match c with
  | '"' => ['\\', '"']
  | '\\' => ['\\', '\\']
  | '\x08' => ['\\', 'b']
  | '\x0c' => ['\\', 'f']
  | '\n' => ['\\', 'n']
  | '\r' => ['\\', 'r']
  | '\t' => ['\\', 't']
  | _ =>
    if c.toNat < 0x20 then
      ['\\', 'u', '0', '0', Nat.digitChar (c.toNat / 16), Nat.digitChar (c.toNat % 16)]
    else [c]

/-- A string between quotes. -/
def textChars (text : String) : List Char :=
  '"' :: (text.toList.flatMap escapeChar ++ ['"'])

mutual

/-- The characters of a value. -/
def chars : Json → List Char
  | .null => ['n', 'u', 'l', 'l']
  | .flag true => ['t', 'r', 'u', 'e']
  | .flag false => ['f', 'a', 'l', 's', 'e']
  | .number n => n.chars
  | .text t => textChars t
  | .list items => '[' :: (itemChars items ++ [']'])
  | .record fields => '\x7b' :: (fieldChars fields ++ ['\x7d'])

/-- The items of a list with commas between them. -/
def itemChars : List Json → List Char
  | [] => []
  | [item] => chars item
  | item :: rest => chars item ++ ',' :: itemChars rest

/-- The fields of a record with commas between them. -/
def fieldChars : Fields → List Char
  | [] => []
  | [(key, value)] => textChars key ++ ':' :: chars value
  | (key, value) :: rest => textChars key ++ ':' :: chars value ++ ',' :: fieldChars rest

end

/-- The text of a value. -/
def write (value : Json) : String :=
  String.ofList (chars value)

end GameShelf.Json
