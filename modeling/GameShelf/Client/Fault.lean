/-!
# Faults

Whatever can go wrong between a call of the library and its result is one of these causes. The
wording, the stable label, and the advice to try again or to sign in all follow from the cause.

* `Fault`: the causes.
* `Fault.message`, `Fault.kind`, `Fault.isRetryable`, `Fault.requiresLogin`.

## Terms

These go by other names in the interface of the service:

* `Fault`: `SyncError`.
-/

namespace GameShelf

/-- Why a call failed. -/
inductive Fault where
  /-- No answer came in time. -/
  | timeout (endpoint : String)
  /-- The server could not be reached. -/
  | unreachable (message : String)
  /-- A reply is no envelope. -/
  | protocolViolation (message : String)
  /-- The server reports that it failed. -/
  | remoteFailure (message : String)
  /-- A new credential was refused like the one before. -/
  | authenticationExpired
  /-- No new credential could be had. -/
  | credentialUnavailable (message : String)
  /-- The server does not have what was asked for. -/
  | notFound
  /-- Any other status that is no success. -/
  | status (code : Nat) (message : String)
  /-- A request cannot be written. -/
  | unencodable (message : String)
  /-- The data of a reply has the wrong shape. -/
  | undecodable (message : String)
deriving DecidableEq, Repr

namespace Fault

/-- The wording of a fault. -/
def message : Fault → String
  | timeout endpoint => s!"request to {endpoint} timed out"
  | unreachable message => s!"network unreachable: {message}"
  | protocolViolation message => s!"protocol violation: {message}"
  | remoteFailure message => s!"server reported failure: {message}"
  | authenticationExpired => "authentication expired"
  | credentialUnavailable message => s!"credential unavailable: {message}"
  | notFound => "resource not found"
  | status code message => s!"HTTP {code}: {message}"
  | unencodable message => s!"serialization failed: {message}"
  | undecodable message => s!"decode failed: {message}"

/-- The label of a fault in telemetry. -/
def kind : Fault → String
  | timeout _ => "timeout"
  | unreachable _ => "network_unreachable"
  | protocolViolation _ => "protocol_violation"
  | remoteFailure _ => "remote_reported_failure"
  | authenticationExpired => "authentication_expired"
  | credentialUnavailable _ => "credential_unavailable"
  | notFound => "not_found"
  | status .. => "status"
  | unencodable _ => "serialization"
  | undecodable _ => "decode"

/-- Whether the same request may succeed later. -/
def isRetryable : Fault → Bool
  | timeout _ => true
  | unreachable _ => true
  | status code _ => decide (500 ≤ code)
  | _ => false

/-- Whether the user has to sign in again. -/
def requiresLogin : Fault → Bool
  | authenticationExpired => true
  | credentialUnavailable _ => true
  | _ => false

end Fault

end GameShelf
