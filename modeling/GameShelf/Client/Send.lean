import GameShelf.Client.Dialogue
import GameShelf.Client.Envelope
import GameShelf.Decode.Record

/-!
# Sending a request

One request is sent with the current credential, or without one if there is none. If the server
answers that the credential is no good, a new one is asked for, and the request is sent once
more. What comes back is sorted into data or a fault.

* `Reply.data`: the data of a reply in internal spelling, or its fault.
* `send`: the dialogue of a request.
* `sendAs`: the same with the data decoded.

## Terms

These go by other names in the interface of the service:

* `Reply.data`, `preview`: `parse_response`, `body_preview`.
* `conclude`, `sendAs`: `complete`, `send_as`.
-/

namespace GameShelf

/-! ## Sorting replies -/

/-- How many characters of a body a fault shows. -/
def previewLength : Nat := 160

/-- The beginning of a body in single-spaced words, with three dots if something is cut off. -/
def preview (body : String) : String :=
  let compact := (Text.singleSpaced body).toList
  if previewLength < compact.length then
    String.ofList (compact.take previewLength) ++ "..."
  else String.ofList compact

/-- The status of a reply to a credential that is no good. -/
def unauthorized : Nat := 401

/-- The data of a reply, or why it has none. -/
def Reply.data (reply : Reply) : Except Fault Json :=
  if isSuccess reply.status then (Envelope.unwrapText reply.body).map Json.toInternal
  else if reply.status = unauthorized then .error .authenticationExpired
  else if reply.status = 404 then .error .notFound
  else .error (.status reply.status
    ((Envelope.failureText? reply.body).getD (preview reply.body)))

/-- The fault of an exchange that failed. -/
def TransportFailure.fault (address : String) : TransportFailure → Fault
  | .timedOut => .timeout address
  | .unreachable message => .unreachable message

/-! ## The dialogue -/

/-- The result of a request. -/
abbrev Result (α : Type) := Except Fault α

/-- Ends a request with a fault. -/
def giveUp {α : Type} (progress : Telemetry.Progress) (fault : Fault) : Dialogue (Result α) :=
  .note (.event (.requestError progress fault.kind fault.message)) (.done (.error fault))

/-- Ends a request with a reply that is not about credentials. -/
def conclude (settings : Settings) (progress : Telemetry.Progress) (reply : Reply) :
    Dialogue (Result Json) :=
  match reply.data with
  | .error fault => giveUp progress fault
  | .ok data =>
    .note (.event (.success progress)) <|
      if settings.slowThreshold < progress.duration then
        .note (.event (.slowResponse progress settings.slowThreshold)) (.done (.ok data))
      else .done (.ok data)

/-- Sends a request for the `number`-th time. While `refreshes` are left, a refused credential
is replaced and the request sent again. -/
def attempt (settings : Settings) (request : Request) (refreshes number : Nat)
    (credential : Option Credential) : Dialogue (Result Json) :=
  let wire := request.prepare settings credential
  .exchange wire fun outcome duration =>
    let progress : Telemetry.Progress :=
      { method := request.method, endpoint := request.path, status := none, duration,
        attempt := number }
    match outcome with
    | .failed failure => giveUp progress (failure.fault wire.address)
    | .elapsed => giveUp progress (.timeout wire.address)
    | .reply reply =>
      let progress := { progress with status := some reply.status }
      if reply.status = unauthorized then
        match refreshes with
        | 0 =>
          .note (.event (.authError progress "unauthorized after credential refresh"))
            (.done (.error .authenticationExpired))
        | left + 1 =>
          .note (.event (.authError progress "unauthorized, refreshing credential")) <|
            .refresh fun
              | .ok credential => attempt settings request left (number + 1) (some credential)
              | .error unavailable =>
                giveUp progress (.credentialUnavailable unavailable.message)
      else conclude settings progress reply

/-- The record of a request that goes out without a credential. -/
def withoutCredential (unavailable : Unavailable) : LogRecord where
  level := .debug
  fields :=
    [("error", .text unavailable.message), ("message", .text "sending without credential")]

/-- How often a request may replace its credential. -/
def maxRefreshes : Nat := 1

/-- Sends a request. -/
def send (settings : Settings) (request : Request) : Dialogue (Result Json) :=
  .note (.event (.breadcrumb "http" (request.method.text ++ " " ++ request.path))) <|
    .credential fun
      | .ok credential => attempt settings request maxRefreshes 1 (some credential)
      | .error unavailable =>
        .note (.log (withoutCredential unavailable)) (attempt settings request maxRefreshes 1 none)

/-- Sends a request and decodes its data. -/
def sendAs {α : Type} (settings : Settings) (read : Decode.Reader α) (request : Request) :
    Dialogue (Result α) :=
  (send settings request).bind fun result =>
    .done (result.bind fun data =>
      (read data).mapError fun error => .undecodable error.message)

end GameShelf
