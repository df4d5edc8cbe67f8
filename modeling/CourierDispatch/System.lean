import CourierDispatch.Courier.Desk
import CourierDispatch.Courier.Service
import CourierDispatch.Order.Handler
import CourierDispatch.Workshop

/-!
# The system of orders and couriers

The order service and the courier service work side by side, and the bus
carries what each tells the other. Whatever was once announced or reported
may be delivered at any time, in any order and any number of times: a
delivery reads the bus and takes nothing from it. Each delivery begins a
piece of work of its own, which then makes its calls one at a time, with
those of all the others in between.

An assignment is made at the desk, in several steps under the lock of its
order. The work that asked for it waits until its call there has returned.
-/

namespace CourierDispatch

/-- **What the courier service works on**, with couriers given to orders at
the desk. -/
structure CourierFloor (τ : Type) where
  /-- The desk, with the store. -/
  desk : AssignmentDesk τ := {}
  /-- The reports, first made first. -/
  reports : List OrderValidationMessage := []
  /-- Where couriers were last seen. -/
  positions : Table Uuid Position := Table.empty

namespace CourierFloor

variable {τ : Type} [DecidableEq τ]

/-- What the courier service works on, but for the desk around its store. -/
def service (f : CourierFloor τ) : CourierService.State := ⟨f.desk.store, f.reports, f.positions⟩

/-- The floor after a call that did not go to the desk. -/
def withService (s : CourierService.State) (f : CourierFloor τ) : CourierFloor τ :=
  { desk := { f.desk with store := s.store }, reports := s.reports, positions := s.positions }

/-- The result of the call that a piece of work has made at the desk, once it
has returned. -/
def returned? (task : τ) (orderId : Uuid) (f : CourierFloor τ) :
    Option (Except ServiceError Assignment) :=
  match f.desk.calls.get? task with
  | some ⟨o, .returned result⟩ => if o = orderId then some result else none
  | _ => none

/-- **Answers a call** of a piece of work: an assignment comes from the desk,
and everything else is as `CourierService.answer` has it. -/
def answer? (task : τ) (m : Moment) (c : CourierService.Call) (f : CourierFloor τ) :
    Option (CourierService.Answer c × CourierFloor τ) :=
  match c with
  | .assign orderId => (f.returned? task orderId).map fun result => (result, f)
  | c =>
    let (a, s) := CourierService.answer m c f.service
    some (a, f.withService s)

/-- Whether a step may be taken at the desk: a courier comes free and under an
identifier of its own, and a call is made by a piece of work that is about to
make it. -/
def allows (due? : Option CourierService.Call) (e : AssignmentDesk.Event τ)
    (f : CourierFloor τ) : Bool :=
  match e with
  | .insert x => x.isAvailable && f.desk.store.couriers.all fun y => y.id ≠ x.id
  | .call _ orderId =>
    match due? with
    | some (.assign o) => o = orderId
    | _ => false
  | _ => true

end CourierFloor

/-- **The two services with the bus between them**, for pieces of work named in
`τ`. -/
structure System (τ : Type) where
  /-- The order service. -/
  orders : Workshop τ OrderService.Call OrderService.Answer Unit OrderService.State :=
    { state := {} }
  /-- The courier service. -/
  couriers : Workshop τ CourierService.Call CourierService.Answer Unit (CourierFloor τ) :=
    { state := {} }

namespace System

variable {τ : Type} [DecidableEq τ]

/-- **The steps of the system.** -/
inductive Event (τ : Type) where
  /-- An order is asked for. -/
  | create (task : τ) (phoneNumber : String)
  /-- An announcement of an order is delivered, by its number on the bus. -/
  | deliverOrder (task : τ) (number : Nat)
  /-- A report is delivered, by its number on the bus. -/
  | deliverReport (task : τ) (number : Nat)
  /-- A piece of work of the order service makes its next call. -/
  | orderCall (task : τ) (m : Moment)
  /-- A piece of work of the courier service makes its next call. -/
  | courierCall (task : τ) (m : Moment)
  /-- A step is taken at the desk. -/
  | desk (e : AssignmentDesk.Event τ)

/-- A step is taken at the desk, if it may be. -/
def deskStep? (e : AssignmentDesk.Event τ) (s : System τ) : Option (System τ) :=
  if s.couriers.state.allows (e.task?.bind s.couriers.due?) e then
    (s.couriers.state.desk.step? e).map fun desk =>
      { s with couriers := { s.couriers with state := { s.couriers.state with desk } } }
  else none

/-- **One step**; none if it cannot be taken. -/
def step? (e : Event τ) (s : System τ) : Option (System τ) :=
  match e with
  | .create task phoneNumber =>
    (s.orders.begin? task ((OrderService.createOrder phoneNumber).bind fun _ => .done ())).map
      fun orders => { s with orders }
  | .deliverOrder task number => do
    let a ← s.orders.state.announced[number]?
    let couriers ← s.couriers.begin? task
      ((CourierService.handle a.message.toJson).bind fun _ => .done ())
    some { s with couriers }
  | .deliverReport task number => do
    let m ← s.couriers.state.reports[number]?
    let orders ← s.orders.begin? task ((OrderService.handle m.toJson).bind fun _ => .done ())
    some { s with orders }
  | .orderCall task m =>
    (s.orders.advance? (fun c st => some (OrderService.answer m c st)) task).map
      fun orders => { s with orders }
  | .courierCall task m =>
    (s.couriers.advance? (CourierFloor.answer? task m) task).map
      fun couriers => { s with couriers }
  | .desk e => s.deskStep? e

/-- **Takes steps one after another**, from the empty system; those that
cannot be taken are passed over. -/
def run (events : List (Event τ)) : System τ :=
  events.foldl (fun s e => (s.step? e).getD s) {}

end System

end CourierDispatch
