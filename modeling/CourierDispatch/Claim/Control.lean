import CourierDispatch.Claim.Process

/-!
# Controlling a consumer

A consumer is a member of a group from time to time. Whoever holds its
control can see what it is at, pause and resume it, and wait until it has
joined its group. The control outlives the consumer: pausing has no effect
then, and waiting fails.
-/

namespace CourierDispatch

/-- **What a consumer is at.** -/
inductive ConsumerState where
  /-- It has not begun. -/
  | created
  /-- It is joining its group. -/
  | joiningGroup
  /-- It has partitions. -/
  | ready
  /-- It has received messages. -/
  | consumingClaims
  /-- Partitions are taken away, or the group was left after a failure. -/
  | rebalancing
  /-- It finishes the messages it is at. -/
  | draining
  /-- It is at its end. -/
  | closed
  deriving DecidableEq, Repr

/-- The name of a state. -/
def ConsumerState.name : ConsumerState → String
  | created => "Created"
  | joiningGroup => "JoiningGroup"
  | ready => "Ready"
  | consumingClaims => "ConsumingClaims"
  | rebalancing => "Rebalancing"
  | draining => "Draining"
  | closed => "Closed"

/-- **A consumer as its control sees it.** -/
structure ConsumerControl where
  /-- What it is at. -/
  state : ConsumerState := .created
  /-- It is paused. -/
  paused : Bool := false
  /-- The consumer is there; at its end it is not. -/
  alive : Bool := true

namespace ConsumerControl

/-- Pauses the consumer. -/
def pause (c : ConsumerControl) : ConsumerControl := { c with paused := true }

/-- Resumes the consumer. -/
def resume (c : ConsumerControl) : ConsumerControl := { c with paused := false }

/-- Pauses or resumes the consumer, and tells whether it is paused now. -/
def toggle (c : ConsumerControl) : Bool × ConsumerControl :=
  (!c.paused, { c with paused := !c.paused })

/-- The consumer goes away. -/
def abandon (c : ConsumerControl) : ConsumerControl := { c with alive := false }

/-- **What waiting for the consumer to join its group comes to**; none while
there is reason to wait. -/
def awaitReady (c : ConsumerControl) : Option (Except ConsumerError Unit) :=
  match c.state with
  | .ready => some (.ok ())
  | .consumingClaims => some (.ok ())
  | .closed => some (.error .closed)
  | _ => if c.alive then none else some (.error .closed)

/-! ## The life of a consumer -/

/-- **What happens to a consumer** while it runs. -/
inductive Event where
  /-- It begins to join its group. -/
  | join
  /-- Partitions are given to it. -/
  | assigned
  /-- Partitions are taken away from it. -/
  | revoked
  /-- A message arrives. -/
  | received
  /-- It is told to end. -/
  | cancelled
  /-- A claim has failed, and the session is given up. -/
  | failed
  /-- It has ended. -/
  | ended

/-- What the consumer is at after an event. -/
def after (c : ConsumerControl) : Event → ConsumerControl
  | .join => { c with state := .joiningGroup }
  | .assigned => { c with state := .ready }
  | .revoked => { c with state := .rebalancing }
  | .received => if c.state = .ready then { c with state := .consumingClaims } else c
  | .cancelled => { c with state := .draining }
  | .failed => { c with state := .rebalancing }
  | .ended => { c with state := .closed, alive := false }

/-- **A run that is cancelled before it begins**: the consumer joins its
group only to leave it. -/
def runCancelled (c : ConsumerControl) : ConsumerControl :=
  [Event.join, .cancelled, .ended].foldl after c

end ConsumerControl

end CourierDispatch
