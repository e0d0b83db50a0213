import GameShelf.Intake.Games

/-!
# Taking in storefronts

* `Storefront.ofReported`: a single record.
* `takeStorefronts`: a list of records, of which the first with each identifier counts.

## Terms

These go by other names in the interface of the service:

* `takeStorefronts`: `adapt_digital`.
* `Storefront.ofReported`: `adapt_location`, like that of places.
-/

namespace GameShelf

/-- A storefront with the games that are still free. Without other word it is active and no
subscription. -/
def Storefront.ofReported (claims : Claims) (raw : Reported.Storefront) :
    Noted (Storefront × Claims) := do
  let platform ← Tag.take Platform.steam raw.platform
  let cycle ← Tag.take BillingCycle.monthly raw.cycle
  let method ← Tag.take PaymentMethod.generic raw.method
  let (games, claims) ← claimGames (.storefront raw.id) claims raw.games
  let storefront : Storefront :=
    { id := raw.id
      name := raw.name
      platform
      isActive := raw.isActive.getD true
      billing :=
        { isSubscription := raw.isSubscription.getD false
          cost := raw.cost
          cycle
          nextPayment := raw.nextPayment.bind Date.ofText?
          method }
      games
      created := raw.created.bind Timestamp.ofText?
      updated := raw.updated.bind Timestamp.ofText? }
  return (storefront, claims)

/-- Takes in storefronts after the ones in `kept`. -/
def addStorefronts (kept : List Storefront) (claims : Claims) :
    List Reported.Storefront → Noted (List Storefront × Claims)
  | [] => pure (kept, claims)
  | raw :: rest =>
    if kept.any fun storefront => storefront.id == raw.id then do
      let _ ← (⟨(), [.duplicateLocation raw.id]⟩ : Noted Unit)
      addStorefronts kept claims rest
    else do
      let (storefront, claims) ← Storefront.ofReported claims raw
      addStorefronts (kept ++ [storefront]) claims rest

/-- Takes in storefronts from first to last. -/
def takeStorefronts (claims : Claims) (raw : List Reported.Storefront) :
    Noted (List Storefront × Claims) :=
  addStorefronts [] claims raw

end GameShelf
