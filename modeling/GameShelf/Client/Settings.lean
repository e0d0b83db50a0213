import GameShelf.Calendar.Span
import GameShelf.Client.LogRecord
import GameShelf.Decode.Record

/-!
# Settings

Where the server is, how long to wait for it, and when an answer counts as slow. Settings are
built in code, read from JSON, or looked up in the environment; all three treat the base
address alike.

* `Settings`: the settings, with `Settings.default` and `Settings.forBase`.
* `Settings.layout`: how settings are decoded.
* `Settings.fromEnvironment`: settings from variables, with a log record for each unusable one.
* `Settings.address`: the address of a path.

## Terms

These go by other names in the interface of the service:

* `Settings`: `ClientConfig`.
* `Settings.fromEnvironment`, `Settings.address`: `from_env`, `url_for`.
-/

namespace GameShelf

/-- The settings of a client. -/
structure Settings where
  base : String
  timeout : Nat
  slowThreshold : Nat
  userAgent : String
deriving DecidableEq, Repr

namespace Settings

/-- A base address without slashes at its end. -/
def trimBase (base : String) : String :=
  String.ofList (base.toList.reverse.dropWhile (· == '/')).reverse

/-- The settings without any given. -/
def default : Settings where
  base := "http://localhost:3000/api"
  timeout := 30 * nanosPerSecond
  slowThreshold := 3000 * nanosPerMilli
  userAgent := "library-sync/0.1.0"

/-- The default settings for a base address. -/
def forBase (base : String) : Settings :=
  { default with base := trimBase base }

/-- The same settings with another timeout. -/
def withTimeout (settings : Settings) (timeout : Nat) : Settings :=
  { settings with timeout }

/-- The same settings with another limit for slow answers. -/
def withSlowThreshold (settings : Settings) (slowThreshold : Nat) : Settings :=
  { settings with slowThreshold }

/-- The same settings under another name of the client. -/
def withUserAgent (settings : Settings) (userAgent : String) : Settings :=
  { settings with userAgent }

/-- The address of a path: base, one slash, and the path without slashes in front. -/
def address (settings : Settings) (path : String) : String :=
  settings.base ++ "/" ++ String.ofList (path.toList.dropWhile (· == '/'))

/-! ## Settings as JSON -/

/-- Reads a text as a base address. -/
def readBase : Decode.Reader String := fun value =>
  (Decode.text value).map trimBase

/-- Reads a span of time in the given unit. -/
def readSpan (unit : Nat) : Decode.Reader Nat := fun value =>
  (Decode.word64 value).map (· * unit)

/-- How settings are decoded. What is left out takes the default. -/
def layout : Decode.Layout Settings where
  title := "ClientConfig"
  types := [String, Nat, Nat, String]
  fields :=
    (Decode.defaulted "base_url" readBase default.base,
     Decode.defaulted "timeout" (readSpan nanosPerSecond) default.timeout,
     Decode.defaulted "slow_response_threshold" (readSpan nanosPerMilli) default.slowThreshold,
     Decode.defaulted "user_agent" Decode.text default.userAgent,
     ())
  build := fun (base, timeout, slowThreshold, userAgent, ()) =>
    { base, timeout, slowThreshold, userAgent }

/-! ## Settings from the environment -/

/-- The variable for the base address. -/
def baseVariable : String := "LIBRARY_SYNC_BASE_URL"

/-- The variable for the timeout in seconds. -/
def timeoutVariable : String := "LIBRARY_SYNC_TIMEOUT_SECS"

/-- The variable for the limit of slow answers in milliseconds. -/
def slowVariable : String := "LIBRARY_SYNC_SLOW_MS"

/-- The record of a variable that holds no whole number. -/
def ignoredVariable (name raw : String) (fault : Text.WholeFault) : LogRecord where
  level := .warn
  fields :=
    [("key", .text name), ("value", .text raw), ("error", .text fault.message),
     ("message", .text "ignoring invalid config value")]

/-- The whole number that a variable holds. One that holds none is passed over with a
record. -/
def numberOf (lookup : String → Option String) (name : String) :
    Option Nat × List LogRecord :=
  match lookup name with
  | none => (none, [])
  | some raw =>
    match Text.readWhole (Text.trim raw) with
    | .ok n => (some n, [])
    | .error fault => (none, [ignoredVariable name raw fault])

/-- The default settings with what the environment says instead. -/
def fromEnvironment (lookup : String → Option String) : Settings × List LogRecord :=
  let base := ((lookup baseVariable).map trimBase).getD default.base
  let (seconds, timeoutLog) := numberOf lookup timeoutVariable
  let (millis, slowLog) := numberOf lookup slowVariable
  ({ default with
      base
      timeout := (seconds.map (· * nanosPerSecond)).getD default.timeout
      slowThreshold := (millis.map (· * nanosPerMilli)).getD default.slowThreshold },
    timeoutLog ++ slowLog)

end Settings

end GameShelf
