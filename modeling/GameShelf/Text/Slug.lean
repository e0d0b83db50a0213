import GameShelf.Text.Blank

/-!
# Slugs

A slug names a game in an address: the ASCII letters and digits of its name in lower case,
with one hyphen wherever white space or ASCII punctuation stood between two of them.

* `slug`: the slug of a name.

## Terms

These go by other names in the interface of the service:

* `slug`: `slugify`.
-/

namespace GameShelf.Text

/-- Letters and digits of ASCII, the characters that a slug keeps. -/
def isSlugChar (c : Char) : Bool :=
  c.isAlphanum

/-- The punctuation characters of ASCII. -/
def isPunctuation (c : Char) : Bool :=
  let n := c.toNat
  (0x21 ≤ n && n ≤ 0x2F) || (0x3A ≤ n && n ≤ 0x40) || (0x5B ≤ n && n ≤ 0x60) ||
    (0x7B ≤ n && n ≤ 0x7E)

/-- The characters that part two words of a name. All others that a slug does not keep are
left out without a trace. -/
def isSlugBreak (c : Char) : Bool :=
  isBlank c || isPunctuation c

/-- The rest of a slug. `started` says whether a character was kept before, `broken` whether a
break came since. -/
def slugRest (started broken : Bool) : List Char → List Char
  | [] => []
  | c :: rest =>
    if isSlugChar c then
      let tail := c.toLower :: slugRest true false rest
      if started && broken then '-' :: tail else tail
    else slugRest started (broken || isSlugBreak c) rest

/-- The slug of a name, empty if the name has no ASCII letter or digit. -/
def slug (name : String) : String :=
  String.ofList (slugRest false false name.toList)

end GameShelf.Text
