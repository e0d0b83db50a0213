import GameShelf.Client.RefreshGate

/-!
# Fixed identities

The identities that need no provider: nobody is signed in, or a token is always the same.

* `Identity`: the two kinds, with `Identity.answer` for what they answer to any question.

## Terms

These go by other names in the interface of the service:

* `Identity`: `Anonymous` and `StaticToken`.
-/

namespace GameShelf

/-- An identity that never changes. -/
inductive Identity where
  | anonymous
  | fixed (credential : Credential)
deriving DecidableEq

/-- The credential of an identity, whether the current or a new one is asked for. -/
def Identity.answer : Identity → CredentialAnswer
  | .anonymous => .error ⟨"no signed-in user"⟩
  | .fixed credential => .ok credential

end GameShelf
