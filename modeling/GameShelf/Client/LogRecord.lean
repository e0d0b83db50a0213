import GameShelf.Json.Basic

/-!
# Log records

A record has a level and named values. A name may occur twice: the sentence that a record says
and a value given along with it are both called `message`.

* `LogRecord`: a level and fields.
-/

namespace GameShelf

/-- How much a record matters. -/
inductive LogLevel where
  | debug
  | warn
deriving DecidableEq, Repr

/-- A value in a record. -/
inductive LogValue where
  | text (value : String)
  | number (value : Nat)
deriving DecidableEq, Repr

/-- A record. -/
structure LogRecord where
  level : LogLevel
  fields : List (String × LogValue)
deriving DecidableEq, Repr

end GameShelf
