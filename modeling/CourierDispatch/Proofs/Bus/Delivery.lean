import CourierDispatch.Courier.Service
import CourierDispatch.Location.Service
import CourierDispatch.Order.Handler
import CourierDispatch.Proofs.Bus.WireRoundTrip

/-!
# Values reach the services that they are meant for

Orders, assignments and reports of positions leave one service as messages and enter
another as JSON. The services agree on the names of members, on how identifiers and
timestamps are written, and on the schemas, each in a place of its own. The main result,
`values_delivered`, says that they do agree: whoever handles what was sent goes on with the
very values that were there before, and never takes the message for one that makes no sense.

The time of a report is the exception, as it is for messages in general
(`MessageKind.decode_encode_among`): the report that is stored has the time that was written
(`LocationReport.asWritten`). It is the report that was sent unless that is one of a leap
second that does not end a minute, and such a report is never stored as it is
(`not_delivered_strayReport`).

All this holds in every state of the registry that its callers can bring about, like the
crossing of the bus that it rests on (`MessageKind.arrives_iff`). What a handler makes of the
JSON form of a message is said for each of the three handlers
(`CourierService.handle_announcement`, `OrderService.handle_report`,
`LocationService.track_message`).
-/

namespace CourierDispatch

open Avro (Layout)
open MemoryRegistry (Busy Move)

/-! ## What services send -/

/-- An identifier is never too long. -/
theorem Uuid.textFits_toText (u : Uuid) : Layout.TextFits u.toText := by
  have short : (Bytes.ofText u.toText).length ≤ 4 * 36 := by
    refine Nat.le_trans (Bytes.length_ofText_ofList_le _) (Nat.le_of_eq ?_)
    rw [length_hyphenate (length_digits _ _)]
  rw [Bytes.length_ofText] at short
  exact Nat.le_trans short (by decide)

theorem OrderService.Announcement.sendable (a : Announcement) (fits : Layout.TextFits a.event) :
    MessageKind.order.Sendable a.message :=
  ⟨fits, a.order.id.textFits_toText⟩

theorem Assignment.sendable_report (a : Assignment) : MessageKind.validation.Sendable a.report := by
  refine ⟨?_, a.orderId.textFits_toText, fun courier found => ?_, fun _ found => nomatch found⟩
  · show Topic.courierService.utf8ByteSize ≤ 512 * 1024 * 1024
    decide
  · obtain rfl := Option.some.inj found
    exact a.courierId.textFits_toText

theorem LocationReport.sendable_message (r : LocationReport)
    (latitude : r.position.latitude.isFinite) (longitude : r.position.longitude.isFinite) :
    MessageKind.position.Sendable r.message :=
  ⟨r.courierId.textFits_toText, latitude, longitude⟩

/-! ## What handlers make of it -/

/-- **What handling an announcement is**: unless the order was only updated, it is given to a
courier. -/
def CourierService.attempt (orderId : Uuid) : Work (Except HandlerError Unit) :=
  (assign orderId).bind fun
  | .ok _ => .done (.ok ())
  | .error e => .done (.error (handlingFailed orderId e))

/-- **The courier service goes on with the order that was announced**, and makes no call if it
was only updated. -/
theorem CourierService.handle_announcement (a : OrderService.Announcement) :
    handle a.message.toJson =
      if a.event = Topic.orderUpdated then .done (.ok ()) else attempt a.order.id := by
  have read : orderOfJson? a.message.toJson =
      if a.event = Topic.orderUpdated then none else some a.order.id := by
    unfold orderOfJson?
    rw [OrderMessage.ofJson?_toJson]
    exact congrArg (ite _ none) (Uuid.parse?_toText a.order.id)
  unfold handle
  rw [read]
  by_cases updated : a.event = Topic.orderUpdated
  · rw [if_pos updated, if_pos updated]
  · rw [if_neg updated, if_neg updated]
    rfl

/-- **What handling a report is**: it is taken in, and passed over if it is about an order that
does not exist. -/
def OrderService.takeIn (r : Report) : Work (Except HandlerError Unit) :=
  (validate r.service r.orderId r.fact).bind fun
  | .ok _ => .done (.ok ())
  | .error e =>
    if e.isNotFound then .done (.ok ()) else .done (.error (handlingFailed r.orderId e))

/-- **The order service goes on with the assignment that was reported.** -/
theorem OrderService.handle_report (a : Assignment) :
    handle a.report.toJson =
      takeIn ⟨Topic.courierService, a.orderId, ⟨true, some a.courierId, none⟩⟩ := by
  have message : a.report =
      Report.message ⟨Topic.courierService, a.orderId, ⟨true, some a.courierId, none⟩⟩ := rfl
  unfold handle
  rw [message, Report.ofJson?_message]
  rfl

/-- **A report as it is written**: its time is the one that its text writes. -/
def LocationReport.asWritten (r : LocationReport) : LocationReport :=
  { r with createdAt := r.createdAt.asWritten }

theorem LocationReport.asWritten_eq_self_iff {r : LocationReport} :
    r.asWritten = r ↔ r.createdAt.LeapEndsMinute := by
  rw [← Instant.asWritten_eq_self_iff]
  refine ⟨congrArg createdAt, fun same => ?_⟩
  unfold asWritten
  rw [same]

/-- What handling a report of a position is: it is stored. -/
def LocationService.store (r : LocationReport) : Work (Except HandlerError Unit) :=
  .call (.save r) fun
  | .ok () => .done (.ok ())
  | .error e => .done (.error (handlingFailed r.courierId e))

/-- Whoever stores a report stores no other. -/
theorem LocationService.store_injective : Function.Injective store := by
  intro r r' same
  unfold store at same
  injection same with call _
  injection call

/-- The report in the message of a report is the report as it is written, coordinates bit for
bit. -/
theorem LocationService.reportOfJson?_message {r : LocationReport}
    (latitude : r.position.latitude.isFinite) (longitude : r.position.longitude.isFinite) :
    reportOfJson? r.message.toJson = some r.asWritten := by
  unfold reportOfJson?
  rw [CourierLocationMessage.ofJson?_toJson latitude longitude, Option.bind_some]
  unfold LocationReport.ofMessage? LocationReport.message CourierLocationMessage.asWritten
  rw [Uuid.parse?_toText]
  rfl

/-- **The location service stores the report that was written.** -/
theorem LocationService.track_message (r : LocationReport)
    (latitude : r.position.latitude.isFinite) (longitude : r.position.longitude.isFinite) :
    track r.message.toJson = store r.asWritten := by
  unfold track
  rw [reportOfJson?_message latitude longitude]
  rfl

/-- The location service stores the report that was sent exactly if it is what is written. -/
theorem LocationService.track_message_eq_store_iff {r : LocationReport}
    (latitude : r.position.latitude.isFinite) (longitude : r.position.longitude.isFinite) :
    track r.message.toJson = store r ↔ r.createdAt.LeapEndsMinute := by
  rw [track_message r latitude longitude, store_injective.eq_iff,
    LocationReport.asWritten_eq_self_iff]

/-! ## From service to service -/

/-- **Values reach the services that they are meant for.** In every state that callers can
bring the registry into, as long as fewer than 2³² numbers have been given out: an order that
is announced is given to a courier, unless it was only updated; an assignment that is reported
is taken in as the approval of the courier service that names the order and the courier; and a
position that is reported is stored as it is written. What is written is the report itself,
unless it is one of a leap second that does not end a minute, and then another report is stored.
Others may make their moves while the message is encoded, and any number of them afterwards. -/
theorem values_delivered (earlier between beforehand later : List Move)
    (room : (Busy.run {} earlier).registry.registrations + between.countP Move.allocates <
      2 ^ 32) :
    (∀ (o : Order) (event : String), Layout.TextFits event →
      MessageKind.order.Arrives (OrderService.Announcement.message ⟨o, event⟩)
        (fun j => CourierService.handle j =
          if event = Topic.orderUpdated then .done (.ok ()) else CourierService.attempt o.id)
        earlier between beforehand later)
      ∧ (∀ a : Assignment, MessageKind.validation.Arrives a.report
        (fun j => OrderService.handle j =
          OrderService.takeIn ⟨"courier", a.orderId, ⟨true, some a.courierId, none⟩⟩)
        earlier between beforehand later)
      ∧ ∀ r : LocationReport, r.position.latitude.isFinite → r.position.longitude.isFinite →
        MessageKind.position.Arrives r.message
          (fun j => LocationService.track j = LocationService.store r.asWritten)
          earlier between beforehand later
        ∧ (MessageKind.position.Arrives r.message
          (fun j => LocationService.track j = LocationService.store r)
          earlier between beforehand later ↔ r.createdAt.LeapEndsMinute) := by
  refine ⟨fun o event fits => ?_, fun a => ?_, fun r latitude longitude => ?_⟩
  · exact (MessageKind.arrives_iff (OrderService.Announcement.sendable ⟨o, event⟩ fits) room _).2
      (CourierService.handle_announcement ⟨o, event⟩)
  · exact (MessageKind.arrives_iff a.sendable_report room _).2 (OrderService.handle_report a)
  · have sendable := r.sendable_message latitude longitude
    exact ⟨(MessageKind.arrives_iff sendable room _).2
        (LocationService.track_message r latitude longitude),
      (MessageKind.arrives_iff sendable room _).trans
        (LocationService.track_message_eq_store_iff latitude longitude)⟩

/-- A new order, the assignment of it and a position in a leap second, sent while one service
is still registering a schema and another one registers a second. -/
theorem values_delivered_leapSecond :
    let earlier : List Move := [.allocate "orders.v1-value" OrderMessage.schemaText]
    let between : List Move :=
      [.allocate "order_validations.v1-value" OrderValidationMessage.schemaText, .supply 0]
    let later : List Move := [.supply 0]
    let o : Order := .create ⟨7⟩ "+380501234567" .epoch
    let r : LocationReport :=
      ⟨⟨8⟩, ⟨leapReport.latitude, leapReport.longitude⟩, leapReport.createdAt⟩
    (Busy.run {} earlier).registry.registrations + between.countP Move.allocates < 2 ^ 32 ∧
      Layout.TextFits Topic.orderCreated ∧ r.position.latitude.isFinite ∧
      r.position.longitude.isFinite ∧ r.createdAt.InLeapSecond ∧
      MessageKind.order.Arrives (OrderService.Announcement.message ⟨o, Topic.orderCreated⟩)
        (fun j => CourierService.handle j = CourierService.attempt ⟨7⟩)
        earlier between [] later ∧
      MessageKind.validation.Arrives (Assignment.report ⟨⟨7⟩, ⟨8⟩, .epoch⟩)
        (fun j => OrderService.handle j =
          OrderService.takeIn ⟨"courier", ⟨7⟩, ⟨true, some ⟨8⟩, none⟩⟩)
        earlier between [] later ∧
      MessageKind.position.Arrives r.message
        (fun j => LocationService.track j = LocationService.store r)
        earlier between [] later := by
  intro earlier between later o r
  have room : (Busy.run {} earlier).registry.registrations + between.countP Move.allocates <
      2 ^ 32 := by decide +kernel
  have fits : Layout.TextFits Topic.orderCreated := by
    show Topic.orderCreated.utf8ByteSize ≤ 512 * 1024 * 1024
    decide
  have latitude : r.position.latitude.isFinite := by decide
  have longitude : r.position.longitude.isFinite := by decide
  have ends : r.createdAt.LeapEndsMinute := by decide
  obtain ⟨orders, assignments, positions⟩ := values_delivered earlier between [] later room
  exact ⟨room, fits, latitude, longitude, by decide, orders o Topic.orderCreated fits,
    assignments ⟨⟨7⟩, ⟨8⟩, .epoch⟩, (positions r latitude longitude).2.2 ends⟩

/-- **A position in a leap second that does not end a minute is stored as another one**, even
if it is the first that is ever sent. -/
theorem not_delivered_strayReport :
    let r : LocationReport :=
      ⟨⟨8⟩, ⟨strayReport.latitude, strayReport.longitude⟩, strayReport.createdAt⟩
    r.position.latitude.isFinite ∧ r.position.longitude.isFinite ∧
      ¬ MessageKind.position.Arrives r.message
        (fun j => LocationService.track j = LocationService.store r) [] [] [] [] := by
  intro r
  have latitude : r.position.latitude.isFinite := by decide
  have longitude : r.position.longitude.isFinite := by decide
  have stray : ¬ r.createdAt.LeapEndsMinute := by decide
  have room : (Busy.run {} []).registry.registrations + [].countP Move.allocates < 2 ^ 32 := by
    decide
  refine ⟨latitude, longitude, fun arrives => stray ?_⟩
  have stored := (MessageKind.arrives_iff (r.sendable_message latitude longitude) room _).1 arrives
  exact (LocationService.track_message_eq_store_iff latitude longitude).1 stored

end CourierDispatch
