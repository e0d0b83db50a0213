import GameShelf.Text.Utf8

/-!
# Bodies on the wire

The body of a request is bytes. One that was written as text is kept as text.

* `WireBody`: a body as it is sent and as it arrives.
* `WireBody.empty`, `WireBody.size`: no bytes, and how many bytes.
-/

namespace GameShelf

/-- A body as it is sent and as it arrives. -/
inductive WireBody where
  | text (value : String)
  | bytes (value : List UInt8)
deriving DecidableEq, Repr

/-- The body without bytes. -/
def WireBody.empty : WireBody := .text ""

/-- How many bytes a body has. -/
def WireBody.size : WireBody → Nat
  | .text value => value.utf8ByteSize
  | .bytes value => value.length

end GameShelf
