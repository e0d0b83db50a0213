import GameShelf.Calendar.Reader
import GameShelf.Library.Basic
import GameShelf.Reported.Basic
import GameShelf.Text.Slug

/-!
# Taking in games

A payload may list a game under several locations. The first location that lists it holds it;
every later listing is dropped with a notice.

* `Claims`: which location holds which game so far.
* `Game.ofReported`: a game as its owner holds it.
* `claimGames`: the games of one list that go to their owner.

## Terms

These go by other names in the interface of the service:

* `Claims`: `Ownership`.
* `Game.ofReported`, `claimGames`: `adapt_item`, `adapt_items`.
-/

namespace GameShelf

/-- The games that have an owner, each with the place or storefront that holds it. -/
structure Claims where
  held : List (String × String)
deriving DecidableEq, Repr

namespace Claims

/-- No game has an owner. -/
def none : Claims := ⟨[]⟩

/-- The location that holds a game. -/
def holder? (claims : Claims) (game : String) : Option String :=
  claims.held.lookup game

/-- Gives a game to a location. -/
def give (claims : Claims) (game location : String) : Claims :=
  ⟨(game, location) :: claims.held⟩

end Claims

/-- What is known of a physical copy, absent if nothing is. -/
def Media.ofReported (raw : Reported.Game) : Option Media :=
  let condition := Text.trimToSome raw.condition
  if condition = none ∧ raw.hasCase = none ∧ raw.hasManual = none then none
  else
    some { condition, hasCase := raw.hasCase, hasManual := raw.hasManual }

/-- A game as its owner holds it. -/
def Game.ofReported (owner : Owner) (raw : Reported.Game) : Game where
  id := raw.id
  name := raw.name
  slug := Text.slug raw.name
  platform := raw.platform
  acquired := raw.acquired.bind Date.ofText?
  media := Media.ofReported raw
  owner := owner

/-- Takes in a list of games for an owner. The games that another listing holds already stay
out. -/
def claimGames (owner : Owner) (claims : Claims) : List Reported.Game → Noted (List Game × Claims)
  | [] => pure ([], claims)
  | raw :: rest =>
    match claims.holder? raw.id with
    | some keptUnder => do
      let notice : Notice := .duplicateGame raw.id keptUnder owner.location
      let _ ← (⟨(), [notice]⟩ : Noted Unit)
      claimGames owner claims rest
    | none => do
      let (games, claims) ← claimGames owner (claims.give raw.id owner.location) rest
      return (Game.ofReported owner raw :: games, claims)

end GameShelf
