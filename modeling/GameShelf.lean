import GameShelf.Backend.Body
import GameShelf.Backend.MediaType
import GameShelf.Backend.Record
import GameShelf.Backend.Route
import GameShelf.Backend.Server
import GameShelf.Backend.Store
import GameShelf.Binary64.Basic
import GameShelf.Binary64.Shortest
import GameShelf.Binary64.Text
import GameShelf.Calendar.Date
import GameShelf.Calendar.Reader
import GameShelf.Calendar.Span
import GameShelf.Calendar.Timestamp
import GameShelf.Client.Api
import GameShelf.Client.Dialogue
import GameShelf.Client.Envelope
import GameShelf.Client.Fault
import GameShelf.Client.Http
import GameShelf.Client.Identity
import GameShelf.Client.Input
import GameShelf.Client.LogRecord
import GameShelf.Client.RefreshGate
import GameShelf.Client.Send
import GameShelf.Client.Settings
import GameShelf.Client.Telemetry
import GameShelf.Decode.Error
import GameShelf.Decode.Reader
import GameShelf.Decode.Record
import GameShelf.Intake.Games
import GameShelf.Intake.Payload
import GameShelf.Intake.Places
import GameShelf.Intake.Storefronts
import GameShelf.Json.Basic
import GameShelf.Json.KeyCase
import GameShelf.Json.Number
import GameShelf.Json.Reader
import GameShelf.Json.Surface
import GameShelf.Json.Token
import GameShelf.Json.Writer
import GameShelf.Library.Basic
import GameShelf.Library.Census
import GameShelf.Library.Notice
import GameShelf.Library.Render
import GameShelf.Proofs.Backend.Agreement
import GameShelf.Proofs.Backend.Consistency
import GameShelf.Proofs.Backend.Delivery
import GameShelf.Proofs.Backend.Entities
import GameShelf.Proofs.Backend.Overview
import GameShelf.Proofs.Backend.Paths
import GameShelf.Proofs.Backend.Refusal
import GameShelf.Proofs.Backend.Traffic
import GameShelf.Proofs.Binary64.Shortest
import GameShelf.Proofs.Client.AppliedOnce
import GameShelf.Proofs.Client.Entities
import GameShelf.Proofs.Client.Freshness
import GameShelf.Proofs.Client.GateHistory
import GameShelf.Proofs.Client.Reports
import GameShelf.Proofs.Client.Retry
import GameShelf.Proofs.Client.Session
import GameShelf.Proofs.Client.SingleFlight
import GameShelf.Proofs.Client.Staleness
import GameShelf.Proofs.Client.Transcript
import GameShelf.Proofs.Client.Views
import GameShelf.Proofs.Decode.Leading
import GameShelf.Proofs.Decode.Record
import GameShelf.Proofs.Intake.Batch
import GameShelf.Proofs.Intake.Counting
import GameShelf.Proofs.Intake.CrossReference
import GameShelf.Proofs.Intake.First
import GameShelf.Proofs.Intake.Flattening
import GameShelf.Proofs.Intake.Mention
import GameShelf.Proofs.Intake.Ownership
import GameShelf.Proofs.Intake.Parts
import GameShelf.Proofs.Intake.Roster
import GameShelf.Proofs.Intake.Storefronts
import GameShelf.Proofs.Json.Fields
import GameShelf.Proofs.Json.KeyCase
import GameShelf.Proofs.Json.NumberText
import GameShelf.Proofs.Json.Reread
import GameShelf.Proofs.Json.RoundTrip
import GameShelf.Proofs.Json.Spelling
import GameShelf.Proofs.Library.Census
import GameShelf.Proofs.Results
import GameShelf.Proofs.Text.Percent
import GameShelf.Rehearsal.Basic
import GameShelf.Rehearsal.Stage
import GameShelf.Reported.Basic
import GameShelf.Tag.Basic
import GameShelf.Tag.Tables
import GameShelf.Text.Blank
import GameShelf.Text.DefaultIgnorable
import GameShelf.Text.GraphemeExtend
import GameShelf.Text.Percent
import GameShelf.Text.Printable
import GameShelf.Text.Quoted
import GameShelf.Text.Slug
import GameShelf.Text.Utf8
import GameShelf.Text.Whole
import GameShelf.Text.WireBody
import GameShelf.Proofs.Client.Interleaving
import GameShelf.Proofs.Rehearsal.Interleaved
import GameShelf.Proofs.Backend.Written
import GameShelf.Proofs.Backend.Reported
import GameShelf.Proofs.Backend.Afterwards
import GameShelf.Proofs.Client.Contents
import GameShelf.Proofs.Client.ReadBack
import GameShelf.Proofs.Backend.Atomicity
import GameShelf.Proofs.Binary64.Whole
import GameShelf.Proofs.Decode.Found
import GameShelf.Proofs.Backend.WholeLibrary
import GameShelf.Proofs.Client.Shown
import GameShelf.Proofs.Intake.Account
import GameShelf.Proofs.Client.Recount
import GameShelf.Proofs.Calendar.DayText
import GameShelf.Proofs.Decode.Echoed
import GameShelf.Proofs.Tag.Wire
import GameShelf.Proofs.Client.Echo
import GameShelf.Proofs.Json.InternalTrip
import GameShelf.Proofs.Intake.Disposal
import GameShelf.Proofs.Intake.Lost
import GameShelf.Proofs.Client.Discretion
import GameShelf.Proofs.Text.Utf8
import GameShelf.Proofs.Json.Respelling
import GameShelf.Proofs.Client.Headers
import GameShelf.Proofs.Text.Segment
import GameShelf.Proofs.Client.EntityPath
import GameShelf.Proofs.Text.Whole
import GameShelf.Proofs.Decode.Gap
import GameShelf.Proofs.Decode.Counts
import GameShelf.Proofs.Text.Words
import GameShelf.Proofs.Tag.Lookup
import GameShelf.Proofs.Client.Sorted
import GameShelf.Proofs.Library.Tally
import GameShelf.Proofs.Decode.Entries
import GameShelf.Proofs.Backend.Surface
import GameShelf.Proofs.Backend.Patched
import GameShelf.Proofs.Decode.Overlooked
import GameShelf.Proofs.Intake.FutureFields
import GameShelf.Proofs.Calendar.Grammars
import GameShelf.Proofs.Calendar.TimeText
import GameShelf.Proofs.Text.Slug
import GameShelf.Proofs.Client.Settings
import GameShelf.Proofs.Intake.Slots
import GameShelf.Proofs.Decode.LeftOut
import GameShelf.Proofs.Decode.Lenient
import GameShelf.Proofs.Intake.Decoded
