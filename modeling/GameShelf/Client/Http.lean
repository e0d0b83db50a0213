import GameShelf.Client.Settings
import GameShelf.Json.KeyCase
import GameShelf.Json.Writer
import GameShelf.Text.WireBody

/-!
# Requests and replies

A request names an operation on the server; adding the address, the headers and the credential
makes it ready for the wire. Both are plain data.

* `Request`, `WireRequest`: a request before and after it is made ready.
* `Credential`: what proves who is asking.
* `Headers.set`, `Headers.value?`: headers, whose names do not differ by letter case.
* `Request.prepare`: makes a request ready.
* `Reply`, `TransportFailure`, `Outcome`: what comes back.

## Terms

These go by other names in the interface of the service:

* `Request`, `Request.prepare`: `ApiRequest`, `build_request`.
* `WireRequest`, `Reply`: `HttpRequest`, `HttpResponse`.
* `Headers.set`: `set_header`.
-/

namespace GameShelf

/-! ## Methods and credentials -/

/-- The method of a request. -/
inductive Method where
  | get
  | post
  | put
  | patch
  | delete
deriving DecidableEq, Repr

/-- The name of a method on the wire. -/
def Method.text : Method → String
  | .get => "GET"
  | .post => "POST"
  | .put => "PUT"
  | .patch => "PATCH"
  | .delete => "DELETE"

/-- A token that proves who is asking. -/
structure Credential where
  token : String
deriving DecidableEq

/-- The value of the authorization header. -/
def Credential.bearer (credential : Credential) : String :=
  "Bearer " ++ credential.token

/-- How a credential is shown to people: its token stays hidden. -/
def Credential.redacted (_ : Credential) : String :=
  "Credential(<redacted>)"

/-- Why there is no credential. -/
structure Unavailable where
  message : String
deriving DecidableEq, Repr

/-! ## Headers -/

/-- Headers in order, each with its name. -/
abbrev Headers := List (String × String)

namespace Headers

/-- A header name with its ASCII letters in lower case. -/
def lowerName (name : String) : String :=
  String.ofList (name.toList.map Char.toLower)

/-- Whether two names are the same header. -/
def sameName (a b : String) : Bool :=
  lowerName a == lowerName b

/-- Puts a header at the end instead of all others of its name. -/
def set (headers : Headers) (name value : String) : Headers :=
  headers.filter (fun header => !sameName header.1 name) ++ [(lowerName name, value)]

/-- The value of the first header of a name. -/
def value? (headers : Headers) (name : String) : Option String :=
  (headers.find? fun header => sameName header.1 name).map Prod.snd

end Headers

/-! ## Requests -/

/-- The body of a request. -/
inductive Body where
  /-- A value in internal spelling, which is written in wire spelling. -/
  | json (value : Json)
  /-- Bytes that are sent as they are. -/
  | raw (contentType : String) (bytes : List UInt8)

/-- An operation on the server. -/
structure Request where
  method : Method
  path : String
  body : Option Body
  headers : Headers

/-- A request for a path. -/
def Request.to (method : Method) (path : String) : Request :=
  ⟨method, path, none, []⟩

/-- The same request with a JSON body. -/
def Request.json (request : Request) (value : Json) : Request :=
  { request with body := some (.json value) }

/-- The same request with bytes as its body. -/
def Request.raw (request : Request) (contentType : String) (bytes : List UInt8) : Request :=
  { request with body := some (.raw contentType bytes) }

/-- The same request with a further header. -/
def Request.header (request : Request) (name value : String) : Request :=
  { request with headers := request.headers ++ [(name, value)] }

/-- A request ready for the wire. The timeout is in nanoseconds. -/
structure WireRequest where
  method : Method
  address : String
  headers : Headers
  body : Option WireBody
  timeout : Nat
deriving DecidableEq, Repr

/-- The content type of a body. -/
def Body.contentType : Body → String
  | .json _ => "application/json"
  | .raw contentType _ => contentType

/-- A body as it is sent. -/
def Body.wire : Body → WireBody
  | .json value => .text value.toWire.write
  | .raw _ bytes => .bytes bytes

/-- The headers that a request has without its caller's: what is accepted, and the content type
of the body. -/
def Request.ownHeaders (request : Request) : Headers :=
  ("accept", "application/json") ::
    match request.body with
    | some body => [("content-type", body.contentType)]
    | none => []

/-- The headers of a request. The caller's replace the request's own of the same name, and a
credential replaces an authorization that the caller gave. -/
def Request.allHeaders (request : Request) (credential : Option Credential) : Headers :=
  let headers := request.headers.foldl (fun headers header => headers.set header.1 header.2)
    request.ownHeaders
  match credential with
  | some credential => headers.set "authorization" credential.bearer
  | none => headers

/-- Makes a request ready for the wire. -/
def Request.prepare (settings : Settings) (request : Request) (credential : Option Credential) :
    WireRequest where
  method := request.method
  address := settings.address request.path
  headers := request.allHeaders credential
  body := request.body.map Body.wire
  timeout := settings.timeout

/-! ## Replies -/

/-- A reply of a server. -/
structure Reply where
  status : Nat
  body : String
deriving DecidableEq, Repr

/-- Whether a status reports success. -/
def isSuccess (status : Nat) : Bool :=
  200 ≤ status && status < 300

/-- Why no reply came. -/
inductive TransportFailure where
  | timedOut
  | unreachable (message : String)
deriving DecidableEq, Repr

/-- The wording of a failure. -/
def TransportFailure.message : TransportFailure → String
  | .timedOut => "timed out"
  | .unreachable message => s!"unreachable: {message}"

/-- How an exchange with a server ends. -/
inductive Outcome where
  | reply (reply : Reply)
  | failed (failure : TransportFailure)
  /-- The time for the exchange is over. -/
  | elapsed
deriving DecidableEq, Repr

end GameShelf
