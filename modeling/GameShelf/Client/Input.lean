import GameShelf.Json.Basic
import GameShelf.Library.Basic

/-!
# What changes say

A change of the library is described by the fields that it gives. They are written in internal
spelling; a field that is not given is left out.

* `NewPlace`, `NewCompartment`, `NewStorefront`: what is created.
* `PlaceUpdate`, `StorefrontUpdate`: what is altered. Fields not given stay as they are.

Each has an `encode` function.

## Terms

These go by other names in the interface of the service:

* `NewPlace`, `NewCompartment`: `NewPhysicalLocation`, `NewSublocation`.
* `NewStorefront`: `NewDigitalLocation`.
* `PlaceUpdate`, `StorefrontUpdate`: `PhysicalLocationUpdate`, `DigitalLocationUpdate`.
-/

namespace GameShelf

/-! ## Fields -/

namespace Input

/-- A field with a text. -/
def text (key value : String) : Json.Fields :=
  [(key, .text value)]

/-- A field with a truth value. -/
def flag (key : String) (value : Bool) : Json.Fields :=
  [(key, .flag value)]

/-- A field with a tag. -/
def tag {α : Type} [Tag α] (key : String) (value : α) : Json.Fields :=
  [(key, .text (Tag.wire value))]

/-- A field with a day. -/
def date (key : String) (value : Date) : Json.Fields :=
  [(key, .text value.text)]

/-- A field with an amount. One that is not finite is written as null. -/
def amount (key : String) (value : Binary64) : Json.Fields :=
  [(key, if value.isFinite then .number (.real value) else .null)]

/-- A field that is left out if it is not given. -/
def given {α : Type} (write : α → Json.Fields) : Option α → Json.Fields
  | some value => write value
  | none => []

end Input

open Input

/-! ## Places -/

/-- A place to be created. -/
structure NewPlace where
  name : String
  kind : PlaceKind
  coordinates : Option String
  color : Option Color
deriving DecidableEq, Repr

/-- A new place as JSON. -/
def NewPlace.encode (input : NewPlace) : Json :=
  Json.recordOf <|
    text "name" input.name ++
    tag "locationType" input.kind ++
    given (text "mapCoordinates") input.coordinates ++
    given (tag "bgColor") input.color

/-- What to alter in a place. -/
structure PlaceUpdate where
  name : Option String
  kind : Option PlaceKind
  coordinates : Option String
  color : Option Color
deriving DecidableEq, Repr

/-- Alterations of a place as JSON. -/
def PlaceUpdate.encode (input : PlaceUpdate) : Json :=
  Json.recordOf <|
    given (text "name") input.name ++
    given (tag "locationType") input.kind ++
    given (text "mapCoordinates") input.coordinates ++
    given (tag "bgColor") input.color

/-! ## Compartments -/

/-- A compartment to be created. -/
structure NewCompartment where
  name : String
  kind : CompartmentKind
  placeId : String
  description : Option String
  color : Option Color
deriving DecidableEq, Repr

/-- A new compartment as JSON. -/
def NewCompartment.encode (input : NewCompartment) : Json :=
  Json.recordOf <|
    text "name" input.name ++
    tag "locationType" input.kind ++
    text "parentLocationId" input.placeId ++
    given (text "description") input.description ++
    given (tag "bgColor") input.color

/-! ## Storefronts -/

/-- A storefront to be created. -/
structure NewStorefront where
  name : String
  platform : Platform
  isSubscription : Bool
  isActive : Bool
  cost : Option Binary64
  cycle : BillingCycle
  nextPayment : Option Date
  method : PaymentMethod
deriving DecidableEq, Repr

/-- A new storefront as JSON. -/
def NewStorefront.encode (input : NewStorefront) : Json :=
  Json.recordOf <|
    text "name" input.name ++
    tag "locationType" input.platform ++
    flag "isSubscription" input.isSubscription ++
    flag "isActive" input.isActive ++
    given (amount "monthlyCost") input.cost ++
    tag "billingCycle" input.cycle ++
    given (date "nextPaymentDate") input.nextPayment ++
    tag "paymentMethod" input.method

/-- What to alter in a storefront. -/
structure StorefrontUpdate where
  name : Option String
  platform : Option Platform
  isSubscription : Option Bool
  isActive : Option Bool
  cost : Option Binary64
  cycle : Option BillingCycle
  nextPayment : Option Date
  method : Option PaymentMethod
deriving DecidableEq, Repr

/-- Alterations of a storefront as JSON. -/
def StorefrontUpdate.encode (input : StorefrontUpdate) : Json :=
  Json.recordOf <|
    given (text "name") input.name ++
    given (tag "locationType") input.platform ++
    given (flag "isSubscription") input.isSubscription ++
    given (flag "isActive") input.isActive ++
    given (amount "monthlyCost") input.cost ++
    given (tag "billingCycle") input.cycle ++
    given (date "nextPaymentDate") input.nextPayment ++
    given (tag "paymentMethod") input.method

end GameShelf
