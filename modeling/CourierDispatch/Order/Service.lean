import CourierDispatch.Fate
import CourierDispatch.Script
import CourierDispatch.Bus.Message
import CourierDispatch.Bus.Topic
import CourierDispatch.Order.Store

/-!
# The order service

An order is stored as pending and announced. Every report of another service
about it goes through `validate`: the report is gathered in the validation
record, and once the record is valid the order is accepted and announced
again.

Reports arrive at least once, out of order, and several at a time. So
applying a report twice leaves what applying it once leaves: a record that
would not change is not written, and neither is an order. The announcement
is made again each time, which repairs one that failed after the order had
been stored as accepted. And the store's tokens make a call that worked on a
record that has changed meanwhile fail before it has changed anything.

The work is written as scripts, one store or bus call at a time, so that the
same definitions say what one call does alone and what many do at once.
-/

namespace CourierDispatch

namespace OrderService

/-- **The calls that the service makes.** -/
inductive Call where
  /-- Draws an identifier. -/
  | draw
  /-- Reads the clock. -/
  | clock
  /-- Stores an order. -/
  | insertOrder (o : Order)
  /-- Finds an order. -/
  | findOrder (id : Uuid)
  /-- Stores the courier and the status of an order. -/
  | updateOrder (o : Order)
  /-- Finds a validation record. -/
  | findValidation (id : Uuid)
  /-- Stores the first version of a validation record. -/
  | insertValidation (v : OrderValidation)
  /-- Stores a new version of a validation record in place of the one with a
  token. -/
  | updateValidation (v : OrderValidation) (expected : Instant)
  /-- Announces an event of an order. -/
  | publish (o : Order) (event : String)

/-- The name of the point at which a call can fail; drawing and the clock
never do. -/
def Call.point? : Call → Option String
  | draw => none
  | clock => none
  | insertOrder _ => some "insert_order"
  | findOrder _ => some "find_order"
  | updateOrder _ => some "update_order"
  | findValidation _ => some "find_validation"
  | insertValidation _ => some "insert_validation"
  | updateValidation _ _ => some "update_validation"
  | publish _ _ => some "publish_order"

/-- What answers a call. -/
abbrev Answer : Call → Type
  | .draw => Uuid
  | .clock => Instant
  | .insertOrder _ => Except ServiceError Unit
  | .findOrder _ => Except ServiceError Order
  | .updateOrder _ => Except ServiceError Unit
  | .findValidation _ => Except ServiceError (Option OrderValidation)
  | .insertValidation _ => Except ServiceError OrderValidation
  | .updateValidation _ _ => Except ServiceError OrderValidation
  | .publish _ _ => Except ServiceError Unit

/-- Work of the service: a script of its calls. -/
abbrev Work (α : Type) := Script Call Answer α

/-! ## Orders -/

/-- Stores a new order and announces it. -/
def place (order : Order) : Work (Except ServiceError Order) :=
  .call (.insertOrder order) fun
  | .error e => .done (.error e)
  | .ok () =>
    .call (.publish order Topic.orderCreated) fun
    | .error e => .done (.error e)
    | .ok () => .done (.ok order)

/-- **Creates an order** for a telephone number; any other text is refused. -/
def createOrder (phoneNumber : String) : Work (Except ServiceError Order) :=
  match checkPhoneNumber phoneNumber with
  | .error e => .done (.error e)
  | .ok () =>
    .call .draw fun id => .call .clock fun now => place (Order.create id phoneNumber now)

/-- Finds an order. -/
def getOrder (id : Uuid) : Work (Except ServiceError Order) := .call (.findOrder id) .done

/-! ## Validation -/

/-- **What a report has led to.** -/
structure Outcome where
  /-- The order. -/
  order : Order
  /-- Its validation record. -/
  validation : OrderValidation
  /-- The order was accepted by this report. -/
  accepted : Bool

/-- The order after a report, given the record that the report has led
to. -/
def settled (o : Order) (fact : ValidationFact) (v : OrderValidation) : Order :=
  { o with
    courierId := fact.courier? <|> o.courierId
    status := if v.isValid then .accepted else o.status }

/-- The last step: an order with a valid record is announced. -/
def announce (out : Outcome) : Work (Except ServiceError Outcome) :=
  if out.validation.isValid then
    .call (.publish out.order Topic.orderUpdated) fun
    | .error e => .done (.error e)
    | .ok () => .done (.ok out)
  else .done (.ok out)

/-- The order is stored if the report changes it. -/
def settle (fact : ValidationFact) (order : Order) (v : OrderValidation) :
    Work (Except ServiceError Outcome) :=
  let after := settled order fact v
  let out : Outcome := ⟨after, v, v.isValid && order.status ≠ .accepted⟩
  if after = order then announce out
  else
    .call (.updateOrder after) fun
    | .error e => .done (.error e)
    | .ok () => announce out

/-- The order is settled once the record has been stored. -/
def settleStored (fact : ValidationFact) (order : Order) :
    Except ServiceError OrderValidation → Work (Except ServiceError Outcome)
  | .error e => .done (.error e)
  | .ok stored => settle fact order stored

/-- The record is stored if the report changes it, in place of the version
that was read. -/
def record (fact : ValidationFact) (order : Order) (existing : Option OrderValidation)
    (next : OrderValidation) : Work (Except ServiceError Outcome) :=
  match existing with
  | none => .call (.insertValidation next) (settleStored fact order)
  | some previous =>
    if previous.sameState next then settle fact order previous
    else .call (.updateValidation next previous.updatedAt) (settleStored fact order)

/-- The report is applied to the record that was read; a report of an
unknown service leaves everything as it is. -/
def apply (service : String) (fact : ValidationFact) (orderId : Uuid) (order : Order)
    (existing : Option OrderValidation) : Work (Except ServiceError Outcome) :=
  .call .clock fun now =>
  let v := existing.getD (.start orderId now)
  if service = Topic.courierService then record fact order existing (fact.applyTo now v)
  else .done (.ok ⟨order, v, false⟩)

/-- **Takes in a report of a service about an order.** -/
def validate (service : String) (orderId : Uuid) (fact : ValidationFact) :
    Work (Except ServiceError Outcome) :=
  .call (.findOrder orderId) fun
  | .error e => .done (.error e)
  | .ok order =>
    .call (.findValidation orderId) fun
    | .error e => .done (.error e)
    | .ok existing => apply service fact orderId order existing

/-! ## The calls at work -/

/-- An event of an order as it went to the bus. -/
structure Announcement where
  /-- The order at that moment. -/
  order : Order
  /-- The event. -/
  event : String

/-- The message of an announcement. -/
def Announcement.message (a : Announcement) : OrderMessage := ⟨a.event, a.order.id.toText⟩

/-- **What the service works on**: its store, and what went to the bus. -/
structure State where
  /-- The store. -/
  store : OrderStore := .empty
  /-- The announcements, first made first. -/
  announced : List Announcement := []

/-- **Answers a call.** Drawing and the clock never fail. -/
def answer (m : Moment) : (c : Call) → State → Answer c × State
  | .draw, s => (m.drawn, s)
  | .clock, s => (m.now, s)
  | .insertOrder o, s =>
    m.fate.apply (fun s => (.ok (), { s with store := s.store.insertOrder o })) s
  | .findOrder id, s => m.fate.apply (fun s => (s.store.findOrder id, s)) s
  | .updateOrder o, s =>
    m.fate.apply (fun s =>
      let (r, store) := s.store.updateOrder o
      (r, { s with store })) s
  | .findValidation id, s => m.fate.apply (fun s => (.ok (s.store.findValidation id), s)) s
  | .insertValidation v, s =>
    m.fate.apply (fun s =>
      let (r, store) := s.store.insertValidation m.now v
      (r, { s with store })) s
  | .updateValidation v expected, s =>
    m.fate.apply (fun s =>
      let (r, store) := s.store.updateValidation m.now v expected
      (r, { s with store })) s
  | .publish o event, s =>
    m.fate.apply (fun s => (.ok (), { s with announced := s.announced ++ [⟨o, event⟩] })) s

end OrderService

end CourierDispatch
