import GameShelf.Calendar.Timestamp
import GameShelf.Text.Blank

/-!
# Reading days and points in time

Servers write times in several ways. Four grammars are tried: the strict one with an offset
from UTC, two lenient ones without offset, which mean UTC, and a bare day, which means its
midnight in UTC. In the lenient ones each number may have white space before it and need not
be filled up with zeros.

* `Timestamp.ofText?`: tries the strict grammar, the lenient ones, then the bare day.
* `Date.ofText?`: tries the bare day first, else takes the day of the point in time.

Both trim the text first and find nothing in an empty one.

## Terms

These go by other names in the interface of the service:

* `Timestamp.ofText?`, `Date.ofText?`: `parse_timestamp`, `parse_date`.
-/

namespace GameShelf.Calendar

/-! ## Numbers -/

/-- The number written by decimal digits. -/
def digitsValue (digits : List Char) : Nat :=
  digits.foldl (fun n c => n * 10 + (c.toNat - '0'.toNat)) 0

/-- Reads exactly `count` digits. -/
def fixedNumber? (count : Nat) (text : List Char) : Option (Nat × List Char) :=
  let digits := text.take count
  if digits.length = count ∧ digits.all Char.isDigit then
    some (digitsValue digits, text.drop count)
  else none

/-- Reads at least one digit and at most `most`. -/
def shortNumber? (most : Nat) (text : List Char) : Option (Nat × List Char) :=
  let digits := (text.take most).takeWhile Char.isDigit
  if digits = [] then none else some (digitsValue digits, text.drop digits.length)

/-- Reads all leading digits, at least one. -/
def longNumber? (text : List Char) : Option (Nat × List Char) :=
  let digits := text.takeWhile Char.isDigit
  if digits = [] then none else some (digitsValue digits, text.drop digits.length)

/-- Reads the fraction of a second after its point: the first nine digits count, and further
ones are passed over. -/
def nanos? (text : List Char) : Option (Nat × List Char) :=
  let digits := text.takeWhile Char.isDigit
  if digits = [] then none
  else
    let kept := digits.take 9
    let filled := kept ++ List.replicate (9 - kept.length) '0'
    some (digitsValue filled, text.drop digits.length)

/-- Reads an optional point with the fraction of a second after it. -/
def fraction? : List Char → Option (Nat × List Char)
  | '.' :: rest => nanos? rest
  | rest => some (0, rest)

/-- Passes over one given character. -/
def literal? (c : Char) : List Char → Option (List Char)
  | first :: rest => if first = c then some rest else none
  | [] => none

/-! ## The strict grammar -/

/-- Reads an offset from UTC in minutes: `Z`, or a sign, hours and minutes. The offset stays
below one day. -/
def offset? : List Char → Option (Int × List Char)
  | [] => none
  | c :: rest =>
    if c = 'Z' ∨ c = 'z' then some (0, rest)
    else if c = '+' ∨ c = '-' ∨ c = '\u2212' then do
      let (hours, rest) ← fixedNumber? 2 rest
      let rest ← literal? ':' rest
      let (minutes, rest) ← fixedNumber? 2 rest
      if hours < 24 ∧ minutes < 60 then
        let offset : Int := hours * 60 + minutes
        some (if c = '+' then offset else -offset, rest)
      else none
    else none

/-- Passes over the character between day and time of day. -/
def daySeparator? : List Char → Option (List Char)
  | c :: rest => if c = 'T' ∨ c = 't' ∨ c = ' ' then some rest else none
  | [] => none

/-- Day, time of day and offset with every number at its full width. -/
def strict? (text : List Char) : Option Timestamp := do
  let (year, rest) ← fixedNumber? 4 text
  let rest ← literal? '-' rest
  let (month, rest) ← fixedNumber? 2 rest
  let rest ← literal? '-' rest
  let (day, rest) ← fixedNumber? 2 rest
  let rest ← daySeparator? rest
  let (hour, rest) ← fixedNumber? 2 rest
  let rest ← literal? ':' rest
  let (minute, rest) ← fixedNumber? 2 rest
  let rest ← literal? ':' rest
  let (second, rest) ← fixedNumber? 2 rest
  let (nano, rest) ← fraction? rest
  let (offset, rest) ← offset? rest
  let date ← Date.of? year month day
  let time ← TimeOfDay.of? hour minute second nano
  if rest = [] then Timestamp.ofLocal? date time offset else none

/-! ## The lenient grammars -/

/-- Reads a year: up to four digits, or a sign and any number of digits. -/
def year? (text : List Char) : Option (Int × List Char) :=
  match Text.dropBlanks text with
  | '-' :: rest => (longNumber? rest).map fun (n, rest) => (-n, rest)
  | '+' :: rest => (longNumber? rest).map fun (n, rest) => (n, rest)
  | rest => (shortNumber? 4 rest).map fun (n, rest) => (n, rest)

/-- Reads a number of one or two digits. -/
def twoDigits? (text : List Char) : Option (Nat × List Char) :=
  shortNumber? 2 (Text.dropBlanks text)

/-- Reads a day. -/
def day? (text : List Char) : Option (Date × List Char) := do
  let (year, rest) ← year? text
  let rest ← literal? '-' rest
  let (month, rest) ← twoDigits? rest
  let rest ← literal? '-' rest
  let (day, rest) ← twoDigits? rest
  let date ← Date.of? year month day
  return (date, rest)

/-- Reads a time of day. -/
def timeOfDay? (text : List Char) : Option (TimeOfDay × List Char) := do
  let (hour, rest) ← twoDigits? text
  let rest ← literal? ':' rest
  let (minute, rest) ← twoDigits? rest
  let rest ← literal? ':' rest
  let (second, rest) ← twoDigits? rest
  let (nano, rest) ← fraction? rest
  let time ← TimeOfDay.of? hour minute second nano
  return (time, rest)

/-- A day, a separator and a time of day. -/
def lenient? (separator? : List Char → Option (List Char)) (text : List Char) :
    Option Timestamp := do
  let (date, rest) ← day? text
  let rest ← separator? rest
  let (time, rest) ← timeOfDay? rest
  if rest = [] then some ⟨date, time⟩ else none

/-- A day and nothing after it. -/
def bareDay? (text : List Char) : Option Date := do
  let (date, rest) ← day? text
  if rest = [] then some date else none

/-! ## Trying the grammars -/

/-- The point in time that trimmed text stands for. -/
def timestamp? (text : List Char) : Option Timestamp :=
  strict? text
    <|> lenient? (fun rest => some (Text.dropBlanks rest)) text
    <|> lenient? (literal? 'T') text
    <|> (bareDay? text).map fun date => ⟨date, .midnight⟩

/-- The day that trimmed text stands for. -/
def date? (text : List Char) : Option Date :=
  bareDay? text <|> (timestamp? text).map Timestamp.date

end GameShelf.Calendar

namespace GameShelf

/-- The point in time that a text stands for. -/
def Timestamp.ofText? (text : String) : Option Timestamp :=
  Calendar.timestamp? (Text.trimChars text.toList)

/-- The day that a text stands for. -/
def Date.ofText? (text : String) : Option Date :=
  Calendar.date? (Text.trimChars text.toList)

end GameShelf
