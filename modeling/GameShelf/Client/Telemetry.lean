import GameShelf.Client.Http
import GameShelf.Library.Notice

/-!
# Telemetry

While a request is on its way, events say how it goes. A sink keeps them as they are, turns them
into log records, or drops them.

* `Telemetry.Event`: the events.
* `Telemetry.Entry`: an event, or a log record that is written whatever the sink.
* `Telemetry.Sink`: the sinks, with `Sink.events` and `Sink.logs` for what they make of
  entries.

## Terms

These go by other names in the interface of the service:

* `Telemetry.Progress`: `RequestEvent`.
* `Telemetry.Event`: the methods of `TelemetrySink`, one for each event.
* `Telemetry.Sink`: `TracingTelemetry` writes log records, `NoopTelemetry` drops events.
-/

namespace GameShelf.Telemetry

/-- Which request an event is about, and how far it came. The duration is in nanoseconds. -/
structure Progress where
  method : Method
  endpoint : String
  status : Option Nat
  duration : Nat
  attempt : Nat
deriving DecidableEq, Repr

/-- Something worth knowing about a request. -/
inductive Event where
  | breadcrumb (category message : String)
  | success (progress : Progress)
  | slowResponse (progress : Progress) (threshold : Nat)
  | requestError (progress : Progress) (kind message : String)
  | authError (progress : Progress) (message : String)
  | notice (about : Notice)
deriving DecidableEq, Repr

/-- A line of the record of a call. -/
inductive Entry where
  | event (event : Event)
  | log (record : LogRecord)
deriving DecidableEq, Repr

/-! ## Log records -/

/-- Whole milliseconds, at most the greatest word of 64 bits. -/
def millis (duration : Nat) : Nat :=
  min (duration / nanosPerMilli) (UInt64.size - 1)

/-- The field for a status, if there is one. -/
def statusField (progress : Progress) : List (String × LogValue) :=
  match progress.status with
  | some status => [("status", .number status)]
  | none => []

/-- The fields that name a request. -/
def requestFields (progress : Progress) : List (String × LogValue) :=
  [("method", .text progress.method.text), ("endpoint", .text progress.endpoint)]

/-- The record of an event. -/
def Event.record : Event → LogRecord
  | .breadcrumb category message =>
    ⟨.debug, [("category", .text category), ("message", .text message),
      ("message", .text "breadcrumb")]⟩
  | .success progress =>
    ⟨.debug, requestFields progress ++ statusField progress ++
      [("duration_ms", .number (millis progress.duration)),
       ("attempt", .number progress.attempt),
       ("message", .text "request succeeded")]⟩
  | .slowResponse progress threshold =>
    ⟨.warn, requestFields progress ++
      [("duration_ms", .number (millis progress.duration)),
       ("threshold_ms", .number (millis threshold)),
       ("message", .text "slow response")]⟩
  | .requestError progress kind message =>
    ⟨.warn, requestFields progress ++ statusField progress ++
      [("duration_ms", .number (millis progress.duration)),
       ("attempt", .number progress.attempt),
       ("kind", .text kind),
       ("message", .text message),
       ("message", .text "request failed")]⟩
  | .authError progress message =>
    ⟨.warn, requestFields progress ++
      [("attempt", .number progress.attempt),
       ("message", .text message),
       ("message", .text "authorization failed")]⟩
  | .notice about =>
    ⟨.warn, [("notice", .text about.text),
      ("message", .text "adapter recovered from unexpected data")]⟩

/-! ## Sinks -/

/-- Where events go. -/
inductive Sink where
  /-- Events are kept. -/
  | recorder
  /-- Events become log records. -/
  | logger
  /-- Events are dropped. -/
  | noop
deriving DecidableEq, Repr

/-- An event as a recorder keeps it: a notice is kept as a breadcrumb. -/
def Event.recorded : Event → Event
  | .notice about => .breadcrumb "adapter" about.text
  | other => other

/-- The events that a sink keeps. -/
def Sink.events (sink : Sink) (entries : List Entry) : List Event :=
  match sink with
  | .recorder => entries.filterMap fun
    | .event event => some event.recorded
    | .log _ => none
  | _ => []

/-- The log records of entries with a sink. -/
def Sink.logs (sink : Sink) (entries : List Entry) : List LogRecord :=
  entries.filterMap fun
    | .log record => some record
    | .event event => if sink = .logger then some event.record else none

end GameShelf.Telemetry
