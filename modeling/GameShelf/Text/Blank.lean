/-!
# White space

Text from a server is trimmed and split at white space in the sense of the Unicode property
of that name, which has more members than the ASCII blanks and leaves out the zero-width
characters.

* `isBlank`: the property.
* `trim`, `trimToSome`: text without the white space around it, absent if nothing remains.
* `words`: the maximal pieces without white space.
-/

namespace GameShelf.Text

/-- The Unicode property White_Space. -/
def isBlank (c : Char) : Bool :=
  let n := c.toNat
  (9 ≤ n && n ≤ 13) || n == 32 || n == 0x85 || n == 0xA0 || n == 0x1680 ||
    (0x2000 ≤ n && n ≤ 0x200A) || n == 0x2028 || n == 0x2029 || n == 0x202F || n == 0x205F ||
    n == 0x3000

/-! ## Trimming -/

/-- The characters of a text from the first one on that is not blank. -/
def dropBlanks (cs : List Char) : List Char :=
  cs.dropWhile isBlank

/-- The characters of a text without the blanks at either end. -/
def trimChars (cs : List Char) : List Char :=
  (dropBlanks (dropBlanks cs).reverse).reverse

/-- A text without the white space around it. -/
def trim (text : String) : String :=
  String.ofList (trimChars text.toList)

/-- An optional text, trimmed, and absent if nothing else is in it. -/
def trimToSome (text : Option String) : Option String :=
  (text.map trim).filter (· ≠ "")

/-! ## Words -/

/-- The maximal runs of characters outside a class. `run` holds the current run, last
character first. -/
def splitRuns (separates : Char → Bool) (run : List Char) : List Char → List (List Char)
  | [] => if run = [] then [] else [run.reverse]
  | c :: rest =>
    if separates c then
      if run = [] then splitRuns separates [] rest
      else run.reverse :: splitRuns separates [] rest
    else splitRuns separates (c :: run) rest

/-- The maximal pieces of a text without white space. -/
def words (text : String) : List String :=
  (splitRuns isBlank [] text.toList).map String.ofList

/-- The words of a text joined by single spaces. -/
def singleSpaced (text : String) : String :=
  String.intercalate " " (words text)

end GameShelf.Text
