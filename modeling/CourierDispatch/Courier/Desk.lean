import CourierDispatch.Courier.KeyedLock
import CourierDispatch.Courier.Store

/-!
# The assignment desk

At the desk couriers are given to orders, many calls at a time. A call takes
the lock of its order, looks for the assignment of the order, claims a
courier if there is none, records the assignment, and leaves the lock.
Between any two of these steps there may be steps of other calls, and new
couriers may come.

`CourierStore.assign` is what a call does when nothing comes in between; the
steps here are made of the same operations of the store.
-/

namespace CourierDispatch

/-- **How far a call has come.** -/
inductive AssignStage where
  /-- It waits for the lock of its order. -/
  | locking
  /-- It has the lock and is about to look for the assignment. -/
  | looking
  /-- There was no assignment; it is about to claim a courier. -/
  | claiming
  /-- It has claimed a courier and is about to record the assignment. -/
  | recording (courierId : Uuid)
  /-- It knows its result and is leaving the lock. -/
  | leaving (result : Except ServiceError Assignment)
  /-- It has returned. -/
  | returned (result : Except ServiceError Assignment)

/-- **A call** that asks for the courier of an order. -/
structure AssignCall where
  /-- The order. -/
  orderId : Uuid
  /-- How far the call has come. -/
  stage : AssignStage := .locking

namespace AssignCall

/-- The courier that the call has claimed and not yet recorded. -/
def claimed? (c : AssignCall) : Option Uuid :=
  match c.stage with
  | .recording courierId => some courierId
  | _ => none

/-- The result of the call, once it knows it. -/
def result? (c : AssignCall) : Option (Except ServiceError Assignment) :=
  match c.stage with
  | .leaving result => some result
  | .returned result => some result
  | _ => none

end AssignCall

/-- **The desk**, for calls named in `τ`. -/
structure AssignmentDesk (τ : Type) where
  /-- The couriers and their assignments. -/
  store : CourierStore := .empty
  /-- The locks of orders. -/
  locks : KeyedLock Uuid τ := .empty
  /-- The calls, first made first; those that have returned stay listed. -/
  calls : Table τ AssignCall := Table.empty

namespace AssignmentDesk

variable {τ : Type} [DecidableEq τ]

/-- **The steps at the desk.** -/
inductive Event (τ : Type) where
  /-- A courier comes. -/
  | insert (c : Courier)
  /-- A call is made and takes the mutex of its order in hand. -/
  | call (task : τ) (orderId : Uuid)
  /-- It acquires the mutex. -/
  | lock (task : τ)
  /-- It looks for the assignment of its order. -/
  | look (task : τ)
  /-- It claims a courier, if one is available. -/
  | claim (task : τ)
  /-- It records the assignment, at a time. -/
  | record (task : τ) (now : Instant)
  /-- It releases the mutex. -/
  | release (task : τ)
  /-- It drops its reference to the mutex. -/
  | drop (task : τ)
  /-- It looks after the entry of the mutex, and returns. -/
  | sweep (task : τ)
  deriving DecidableEq

/-- The call that takes a step, if a call does. -/
def Event.task? : Event τ → Option τ
  | insert _ => none
  | call task _ => some task
  | lock task => some task
  | look task => some task
  | claim task => some task
  | record task _ => some task
  | release task => some task
  | drop task => some task
  | sweep task => some task

/-- The courier that comes with a step, if one does. -/
def Event.courier? : Event τ → Option Courier
  | insert c => some c
  | _ => none

/-- The couriers that come in the course of steps, in order. -/
def inserted (events : List (Event τ)) : List Courier := events.filterMap Event.courier?

/-- The desk at which nobody has called yet. -/
def opened (couriers : List Courier) : AssignmentDesk τ := { store := { couriers } }

/-- A call goes on to a stage. -/
def moveTo (stage : AssignStage) (task : τ) (c : AssignCall) (d : AssignmentDesk τ) :
    AssignmentDesk τ :=
  { d with calls := d.calls.put task { c with stage } }

/-- A call takes a step of its lock. -/
def lockStep (e : KeyedLock.Event Uuid τ) (d : AssignmentDesk τ) : Option (AssignmentDesk τ) :=
  (d.locks.step? e).map fun locks => { d with locks }

/-- A call looks for the assignment of its order: if there is one, that is
its result. -/
def look (task : τ) (c : AssignCall) (d : AssignmentDesk τ) : AssignmentDesk τ :=
  match d.store.findAssignment c.orderId with
  | some a => d.moveTo (.leaving (.ok a)) task c
  | none => d.moveTo .claiming task c

/-- A call claims a courier; if none is available, that is its result. -/
def claim (task : τ) (c : AssignCall) (d : AssignmentDesk τ) : AssignmentDesk τ :=
  match d.store.claim with
  | (some courierId, store) => { d with store }.moveTo (.recording courierId) task c
  | (none, _) => d.moveTo (.leaving (.error (.noCourierAvailable c.orderId))) task c

/-- A call records that its order is given to the courier it has claimed. -/
def record (now : Instant) (courierId : Uuid) (task : τ) (c : AssignCall)
    (d : AssignmentDesk τ) : AssignmentDesk τ :=
  let a : Assignment := ⟨c.orderId, courierId, now⟩
  { d with store := d.store.recordAssignment a }.moveTo (.leaving (.ok a)) task c

/-- One step of a call, from the stage at which it is. -/
def advance (e : Event τ) (task : τ) (c : AssignCall) (d : AssignmentDesk τ) :
    Option (AssignmentDesk τ) :=
  match e, c.stage with
  | .lock _, .locking => (d.lockStep (.acquire task)).map (moveTo .looking task c)
  | .look _, .looking => some (d.look task c)
  | .claim _, .claiming => some (d.claim task c)
  | .record _ now, .recording courierId => some (d.record now courierId task c)
  | .release _, .leaving _ => d.lockStep (.release task)
  | .drop _, .leaving _ => d.lockStep (.drop task)
  | .sweep _, .leaving result =>
    (d.lockStep (.sweep task)).map (moveTo (.returned result) task c)
  | _, _ => none

/-- **One step**; none if the call is not where it could take it. -/
def step? (e : Event τ) (d : AssignmentDesk τ) : Option (AssignmentDesk τ) :=
  match e with
  | .insert c => some { d with store := d.store.insertCourier c }
  | .call task orderId =>
    if d.calls.contains task then none
    else (d.lockStep (.ask task orderId)).map (moveTo .locking task { orderId })
  | e => do
    let task ← e.task?
    let c ← d.calls.get? task
    d.advance e task c

/-- Takes steps one after another; those that cannot be taken are passed
over. -/
def run (events : List (Event τ)) (d : AssignmentDesk τ) : AssignmentDesk τ :=
  events.foldl (fun d e => (d.step? e).getD d) d

/-- The number of couriers that calls have claimed and not yet recorded. -/
def claimedCount (d : AssignmentDesk τ) : Nat := d.calls.values.countP (·.claimed?.isSome)

/-- The steps of one call, from first to last. -/
def wholeCall (task : τ) (orderId : Uuid) (now : Instant) : List (Event τ) :=
  [.call task orderId, .lock task, .look task, .claim task, .record task now, .release task,
    .drop task, .sweep task]

end AssignmentDesk

end CourierDispatch
