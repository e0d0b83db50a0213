import GameShelf.Text.Percent

/-!
# Routes of the backend

A path names a collection, an entity in one, or one of the two overviews. The overviews go
before an entity of the same spelling. Paths are matched as they are written, without a scheme
and a host before them and a query after them; only the segment of an entity is decoded.

* `Backend.Route`: what a path names.
* `Backend.Route.ofPath?`: the route of a path.
* `Backend.Operation`: what a method does at a route.
* `Backend.Route.operation?`: the operation, absent for a method that a route does not have.

## Terms

These go by other names in the interface of the service:

* `Backend.Route.ofPath?`, `Backend.Route.operation?`: `router`.
-/

namespace GameShelf.Backend

/-- What a path names. An entity is given by its segment, still encoded. -/
inductive Route where
  | library
  | batch
  | places
  | place (segment : String)
  | compartments
  | compartment (segment : String)
  | storefronts
  | storefront (segment : String)
deriving DecidableEq, Repr

/-- What a request is to do. -/
inductive Operation where
  | library
  | batch
  | listPlaces
  | getPlace (segment : String)
  | createPlace
  | updatePlace (segment : String)
  | deletePlace (segment : String)
  | createCompartment
  | deleteCompartment (segment : String)
  | listStorefronts
  | getStorefront (segment : String)
  | createStorefront
  | updateStorefront (segment : String)
  | deleteStorefront (segment : String)
deriving DecidableEq, Repr

namespace Route

/-- The parts of a text between slashes. -/
def splitSlashes (part : List Char) : List Char → List String
  | [] => [String.ofList part.reverse]
  | c :: rest =>
    if c = '/' then String.ofList part.reverse :: splitSlashes [] rest
    else splitSlashes (c :: part) rest

/-- A path without what follows a question mark or a number sign. -/
def withoutQuery (path : String) : List Char :=
  path.toList.takeWhile fun c => c ≠ '?' ∧ c ≠ '#'

/-- Whether a character can be in the scheme of an address. -/
def isSchemeChar (c : Char) : Bool :=
  c.isAlphanum || c == '+' || c == '-' || c == '.'

/-- A path without the scheme and the host that may stand before it. -/
def withoutHost (path : List Char) : List Char :=
  match path.dropWhile isSchemeChar with
  | ':' :: '/' :: '/' :: rest => rest.dropWhile fun c => c ≠ '/'
  | _ => path

/-- The route of the segments of a path. -/
def ofSegments? : List String → Option Route
  | ["", "v1", "library", "bff"] => some .library
  | ["", "v1", "locations", collection] =>
    if collection = "physical" then some .places
    else if collection = "sublocations" then some .compartments
    else if collection = "digital" then some .storefronts
    else none
  | ["", "v1", "locations", collection, segment] =>
    if segment = "" then none
    else if collection = "physical" then
      if segment = "bff" then some .batch else some (.place segment)
    else if collection = "sublocations" then some (.compartment segment)
    else if collection = "digital" then some (.storefront segment)
    else none
  | _ => none

/-- The route of a path. -/
def ofPath? (path : String) : Option Route :=
  ofSegments? (splitSlashes [] (withoutHost (withoutQuery path)))

/-- The operation of a method at a route. -/
def operation? (route : Route) (method : String) : Option Operation :=
  match route with
  | .library => if method = "GET" then some .library else none
  | .batch => if method = "GET" then some .batch else none
  | .places =>
    if method = "GET" then some .listPlaces
    else if method = "POST" then some .createPlace
    else none
  | .place segment =>
    if method = "GET" then some (.getPlace segment)
    else if method = "PATCH" then some (.updatePlace segment)
    else if method = "DELETE" then some (.deletePlace segment)
    else none
  | .compartments => if method = "POST" then some .createCompartment else none
  | .compartment segment =>
    if method = "DELETE" then some (.deleteCompartment segment) else none
  | .storefronts =>
    if method = "GET" then some .listStorefronts
    else if method = "POST" then some .createStorefront
    else none
  | .storefront segment =>
    if method = "GET" then some (.getStorefront segment)
    else if method = "PATCH" then some (.updateStorefront segment)
    else if method = "DELETE" then some (.deleteStorefront segment)
    else none

end Route

end GameShelf.Backend
