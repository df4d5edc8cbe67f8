import CourierDispatch.Avro.Binary
import CourierDispatch.Avro.Codec
import CourierDispatch.Avro.Name
import CourierDispatch.Avro.Resolve
import CourierDispatch.Avro.Schema
import CourierDispatch.Avro.SchemaText
import CourierDispatch.Avro.Tagged
import CourierDispatch.Avro.Value
import CourierDispatch.Avro.Varint
import CourierDispatch.Bus.Decoder
import CourierDispatch.Bus.Encoder
import CourierDispatch.Bus.Envelope
import CourierDispatch.Bus.Message
import CourierDispatch.Bus.Producer
import CourierDispatch.Bus.Topic
import CourierDispatch.Bus.WireError
import CourierDispatch.Bytes
import CourierDispatch.Claim.Control
import CourierDispatch.Claim.Process
import CourierDispatch.Claim.Rehearsal
import CourierDispatch.Claim.Run
import CourierDispatch.Claim.Session
import CourierDispatch.Claim.Set
import CourierDispatch.Courier.AdvisoryLock
import CourierDispatch.Courier.Api
import CourierDispatch.Courier.Basic
import CourierDispatch.Courier.Desk
import CourierDispatch.Courier.KeyedLock
import CourierDispatch.Courier.KeyedLock.Rehearsal
import CourierDispatch.Courier.LocationClient
import CourierDispatch.Courier.Service
import CourierDispatch.Courier.Store
import CourierDispatch.Decimal.Binary64
import CourierDispatch.Decimal.Shortest
import CourierDispatch.Fate
import CourierDispatch.HandlerError
import CourierDispatch.Http.Exchange
import CourierDispatch.Http.MediaType
import CourierDispatch.Http.Message
import CourierDispatch.Http.Path
import CourierDispatch.Http.Router
import CourierDispatch.Http.Status
import CourierDispatch.Json.Basic
import CourierDispatch.Json.Draft
import CourierDispatch.Json.Printer
import CourierDispatch.Json.Shape
import CourierDispatch.Location.Api
import CourierDispatch.Location.Basic
import CourierDispatch.Location.Pool
import CourierDispatch.Location.Pool.Rehearsal
import CourierDispatch.Location.Service
import CourierDispatch.Location.Store
import CourierDispatch.Order.Api
import CourierDispatch.Order.Basic
import CourierDispatch.Order.Handler
import CourierDispatch.Order.Service
import CourierDispatch.Order.Store
import CourierDispatch.Order.Validation
import CourierDispatch.Position
import CourierDispatch.Proofs.Courier.LockExclusion
import CourierDispatch.Registry.Basic
import CourierDispatch.Registry.Memory
import CourierDispatch.Registry.Remote
import CourierDispatch.Script
import CourierDispatch.ServiceError
import CourierDispatch.Settings.Basic
import CourierDispatch.Settings.Bus
import CourierDispatch.Settings.CommandLine
import CourierDispatch.Settings.Database
import CourierDispatch.Settings.Pool
import CourierDispatch.Table
import CourierDispatch.Text.Blank
import CourierDispatch.Text.Printable
import CourierDispatch.Text.Quoted
import CourierDispatch.Time.Calendar
import CourierDispatch.Time.Instant
import CourierDispatch.Time.Rfc3339
import CourierDispatch.Trial
import CourierDispatch.Uuid
import CourierDispatch.Proofs.Courier.DeskSteps
import CourierDispatch.Proofs.Courier.Assignment
import CourierDispatch.Proofs.Courier.AssignmentRuns
import CourierDispatch.Proofs.Courier.Capacity
import CourierDispatch.System
import CourierDispatch.Proofs.Contract
import CourierDispatch.Proofs.Order.Store
import CourierDispatch.Proofs.Courier.Reports
import CourierDispatch.Proofs.Order.Acceptance
import CourierDispatch.Proofs.SystemSafety
import CourierDispatch.Proofs.Order.OneReport
import CourierDispatch.Proofs.Order.Redelivery
import CourierDispatch.Proofs.Order.ClosedForm
import CourierDispatch.Journal
import CourierDispatch.Proofs.Order.Course
import CourierDispatch.Proofs.Order.TakingIn
import CourierDispatch.Proofs.Order.Versions
import CourierDispatch.Proofs.Order.Linearization
import CourierDispatch.Proofs.Claim.Processing
import CourierDispatch.Proofs.Claim.Steps
import CourierDispatch.Proofs.Claim.Barrier
import CourierDispatch.Proofs.Claim.Chronicle
import CourierDispatch.Proofs.Claim.Acts
import CourierDispatch.Proofs.Claim.Visits
import CourierDispatch.Proofs.Claim.Prefixes
import CourierDispatch.Proofs.Claim.Stopping
import CourierDispatch.Proofs.Claim.Discipline
import CourierDispatch.Proofs.Claim.Succession
import CourierDispatch.Proofs.Claim.AtWork
import CourierDispatch.Proofs.Claim.Overlap
import CourierDispatch.Proofs.Time.Timestamps
import CourierDispatch.Proofs.Avro.Carried
import CourierDispatch.Proofs.Avro.Layout
import CourierDispatch.Proofs.Avro.Truncation
import CourierDispatch.Proofs.Bus.CutOff
import CourierDispatch.Proofs.Registry.Callers
import CourierDispatch.Proofs.Registry.Book
import CourierDispatch.Proofs.Registry.Server
import CourierDispatch.Proofs.Bus.WireRoundTrip
import CourierDispatch.Proofs.Bus.Delivery
import CourierDispatch.Proofs.Bus.Framing
import CourierDispatch.Proofs.Order.Settling
import CourierDispatch.Proofs.Order.Stability
import CourierDispatch.Proofs.Order.InTurn
import CourierDispatch.Proofs.Order.Ranks
import CourierDispatch.Proofs.Order.Serialization
import CourierDispatch.Proofs.Location.Draining
import CourierDispatch.Proofs.Claim.Malformed
import CourierDispatch.Proofs.Claim.Consuming
import CourierDispatch.Proofs.Order.Alone
import CourierDispatch.Proofs.Courier.Alone
import CourierDispatch.Proofs.Avro.NativeRoundTrip
import CourierDispatch.Proofs.Registry.Clients
import CourierDispatch.Proofs.Registry.WriteOnce
import CourierDispatch.Proofs.Registry.Allocation
import CourierDispatch.Proofs.Claim.Outage
import CourierDispatch.Proofs.Location.Arrivals
import CourierDispatch.Proofs.Courier.LockEntries
import CourierDispatch.Proofs.Location.Announcements
import CourierDispatch.Proofs.Order.Creation
