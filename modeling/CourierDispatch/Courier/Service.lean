import CourierDispatch.Courier.Store
import CourierDispatch.Fate
import CourierDispatch.HandlerError
import CourierDispatch.Position
import CourierDispatch.Script

/-!
# The courier service

Every order that is announced is given to a courier, and the order service
is told which. If all couriers are taken nothing is told: the announcement
is delivered again, and the order is tried again then.
-/

namespace CourierDispatch.CourierService

/-- **The calls that the service makes.** -/
inductive Call where
  /-- Draws an identifier. -/
  | draw
  /-- Stores a courier. -/
  | insertCourier (c : Courier)
  /-- Finds a courier. -/
  | findCourier (id : Uuid)
  /-- Gives an order to a courier. -/
  | assign (orderId : Uuid)
  /-- Reports to the order service. -/
  | publish (m : OrderValidationMessage)
  /-- Asks where a courier was last seen. -/
  | latestPosition (id : Uuid)

/-- The name of the point at which a call can fail; drawing never does. -/
def Call.point? : Call → Option String
  | draw => none
  | insertCourier _ => some "insert_courier"
  | findCourier _ => some "find_courier"
  | assign _ => some "assign"
  | publish _ => some "publish_validation"
  | latestPosition _ => some "latest_position"

/-- What answers a call. -/
abbrev Answer : Call → Type
  | .draw => Uuid
  | .insertCourier _ => Except ServiceError Unit
  | .findCourier _ => Except ServiceError Courier
  | .assign _ => Except ServiceError Assignment
  | .publish _ => Except ServiceError Unit
  | .latestPosition _ => Except ServiceError (Option Position)

/-- Work of the service: a script of its calls. -/
abbrev Work (α : Type) := Script Call Answer α

/-- **Creates a courier.** -/
def createCourier (firstName : String) : Work (Except ServiceError Courier) :=
  match Courier.checkName firstName with
  | .error e => .done (.error e)
  | .ok name =>
    .call .draw fun id =>
    let c := Courier.create id name
    .call (.insertCourier c) fun
    | .error e => .done (.error e)
    | .ok () => .done (.ok c)

/-- A courier with the position where it was last seen. -/
structure Sighting where
  /-- The courier. -/
  courier : Courier
  /-- The position, if the courier was ever seen. -/
  position : Option Position

/-- **Finds a courier and where it was last seen.** -/
def getCourier (id : Uuid) : Work (Except ServiceError Sighting) :=
  .call (.findCourier id) fun
  | .error e => .done (.error e)
  | .ok c =>
    .call (.latestPosition id) fun
    | .error e => .done (.error e)
    | .ok p => .done (.ok ⟨c, p⟩)

/-- **Gives an order to a courier and reports it.** -/
def assign (orderId : Uuid) : Work (Except ServiceError Assignment) :=
  .call (.assign orderId) fun
  | .error e => .done (.error e)
  | .ok a =>
    .call (.publish a.report) fun
    | .error e => .done (.error e)
    | .ok () => .done (.ok a)

/-! ## Announcements from the bus -/

/-- **The order that an announcement asks to be given to a courier**: none
if the order was only updated, or if the message makes no sense. -/
def orderOfJson? (j : Json) : Option Uuid :=
  match OrderMessage.ofJson? j with
  | some m => if m.event = Topic.orderUpdated then none else Uuid.parse? m.orderId
  | none => none

/-- What a failure to give an order to a courier says. -/
def handlingFailed (orderId : Uuid) (e : ServiceError) : HandlerError :=
  ⟨s!"can not assign order {orderId} to courier", e⟩

/-- **Handles a message.** -/
def handle (j : Json) : Work (Except HandlerError Unit) :=
  match orderOfJson? j with
  | none => .done (.ok ())
  | some orderId =>
    (assign orderId).bind fun
    | .ok _ => .done (.ok ())
    | .error e => .done (.error (handlingFailed orderId e))

/-! ## The calls at work -/

/-- **What the service works on**: its store, what it has reported, and the
positions that it can ask for. -/
structure State where
  /-- The store. -/
  store : CourierStore := .empty
  /-- The reports, first made first. -/
  reports : List OrderValidationMessage := []
  /-- Where couriers were last seen. -/
  positions : Table Uuid Position := Table.empty

/-- **Answers a call.** Drawing never fails. -/
def answer (m : Moment) : (c : Call) → State → Answer c × State
  | .draw, s => (m.drawn, s)
  | .insertCourier c, s =>
    m.fate.apply (fun s => (.ok (), { s with store := s.store.insertCourier c })) s
  | .findCourier id, s => m.fate.apply (fun s => (s.store.findCourier id, s)) s
  | .assign orderId, s =>
    m.fate.apply (fun s =>
      let (r, store) := s.store.assign m.now orderId
      (r, { s with store })) s
  | .publish r, s =>
    m.fate.apply (fun s => (.ok (), { s with reports := s.reports ++ [r] })) s
  | .latestPosition id, s => m.fate.apply (fun s => (.ok (s.positions.get? id), s)) s

end CourierDispatch.CourierService
