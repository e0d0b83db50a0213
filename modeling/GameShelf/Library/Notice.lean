import GameShelf.Text.Quoted

/-!
# Notices

Unexpected data from a server does not make a reply unusable: a default is taken or a record is
dropped, and a notice says so.

* `Notice`: what was found, and `Notice.text` for its wording.
* `Noted`: a value together with the notices that came up on the way to it, oldest first.

## Terms

These go by other names in the interface of the service:

* `Notice`, `Noted`: `AdapterNotice`, `Adapted`.
-/

namespace GameShelf

/-- Something in a payload that was not taken as it stood. -/
inductive Notice where
  /-- A text that names no member of a closed set, and what was taken instead. -/
  | unknownTag (field raw fallback : String)
  /-- A compartment whose place is not in the batch. -/
  | orphan (compartment : String) (place : Option String)
  /-- A further record of a place or storefront that was already there. -/
  | duplicateLocation (id : String)
  /-- A game that another location holds already. -/
  | duplicateGame (game keptUnder droppedUnder : String)
deriving DecidableEq, Repr

/-- The wording of a notice. -/
def Notice.text : Notice → String
  | .unknownTag field raw fallback =>
    "unknown " ++ field ++ " " ++ Text.quoted raw ++ ", using " ++ fallback
  | .orphan compartment (some place) =>
    s!"dropped sublocation {compartment}: parent {place} not in batch"
  | .orphan compartment none => s!"dropped sublocation {compartment}: no parent id"
  | .duplicateLocation id => s!"dropped duplicate location {id}"
  | .duplicateGame game keptUnder droppedUnder =>
    s!"item {game} listed under {keptUnder} and {droppedUnder}; kept under {keptUnder}"

/-- A value and the notices on the way to it. -/
structure Noted (α : Type) where
  value : α
  notices : List Notice
deriving DecidableEq, Repr

namespace Noted

/-- A value without notices. -/
def plain {α : Type} (value : α) : Noted α :=
  ⟨value, []⟩

/-- Goes on with a value; its notices come first. -/
def andThen {α β : Type} (first : Noted α) (next : α → Noted β) : Noted β :=
  let second := next first.value
  ⟨second.value, first.notices ++ second.notices⟩

instance : Monad Noted where
  pure := plain
  bind := andThen

@[simp] theorem value_pure {α : Type} (value : α) : (pure value : Noted α).value = value := rfl

@[simp] theorem notices_pure {α : Type} (value : α) : (pure value : Noted α).notices = [] := rfl

@[simp] theorem value_bind {α β : Type} (first : Noted α) (next : α → Noted β) :
    (first >>= next).value = (next first.value).value := rfl

@[simp] theorem notices_bind {α β : Type} (first : Noted α) (next : α → Noted β) :
    (first >>= next).notices = first.notices ++ (next first.value).notices := rfl

end Noted

end GameShelf
