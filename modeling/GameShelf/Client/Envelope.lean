import GameShelf.Client.Fault
import GameShelf.Json.Reader

/-!
# Envelopes

Every reply of the server is a record that says whether the request succeeded, with the data or
an error text beside it. The keys of the envelope are spelled the same on both sides.

The message about a reply that is not JSON goes on, after a colon, with what the parser complains
of. This wording belongs to the parser and is left out here.

* `unwrap`: the data of an envelope.
* `unwrapText`: the same for the text of a reply.
* `failureText?`: the error text of a reply that may or may not be an envelope.

## Terms

These go by other names in the interface of the service:

* `unwrap`, `unwrapText`: `unwrap_envelope`, `unwrap_envelope_str`.
* `failureText?`: `failure_message`.
-/

namespace GameShelf.Envelope

/-- The error text among the fields of an envelope. -/
def errorText? (fields : Json.Fields) : Option String :=
  match Json.field? fields "error" with
  | some (.text message) => some message
  | _ => none

/-- The data of an envelope that reports success. -/
def data (fields : Json.Fields) : Except Fault Json :=
  match Json.field? fields "data" with
  | some (.record fields) => .ok (.record fields)
  | some (.list items) => .ok (.list items)
  | _ => .error (.protocolViolation "missing data")

/-- The failure that an envelope reports. -/
def failure (fields : Json.Fields) : Fault :=
  match errorText? fields with
  | some message => .remoteFailure message
  | none => .protocolViolation "missing error"

/-- The data of an envelope, or why there is none. -/
def unwrap : Json → Except Fault Json
  | .record fields =>
    match Json.field? fields "success" with
    | some (.flag true) => data fields
    | some (.flag false) => .error (failure fields)
    | some _ => .error (.protocolViolation "`success` is not a boolean")
    | none => .error (.protocolViolation "missing `success`")
  | _ => .error (.protocolViolation "response body is not an object")

/-- The data in the text of a reply. -/
def unwrapText (body : String) : Except Fault Json :=
  match Json.parse? body with
  | some payload => unwrap payload
  | none => .error (.protocolViolation "response body is not JSON")

/-- The error text in the text of a reply, if it is a record that has one. -/
def failureText? (body : String) : Option String :=
  match Json.parse? body with
  | some (.record fields) => errorText? fields
  | _ => none

end GameShelf.Envelope
