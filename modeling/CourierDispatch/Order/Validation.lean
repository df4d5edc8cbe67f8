import CourierDispatch.Order.Basic

/-!
# The validation of an order

What services report about an order is gathered in one record. The courier
service is the only one that has to approve so far. The record carries the
token of its last change: whoever wants to change it names the token it
read, and is refused if somebody else was faster.
-/

namespace CourierDispatch

/-- **What is known of an order's validation.** -/
structure OrderValidation where
  /-- The order. -/
  orderId : Uuid
  /-- When the courier service first approved. -/
  courierValidatedAt : Option Instant
  /-- Why the courier service does not approve, by its last report. -/
  courierError : Option String
  /-- The token of the last change. -/
  updatedAt : Instant
  deriving DecidableEq

namespace OrderValidation

/-- The record of an order about which nothing was reported yet. -/
def start (orderId : Uuid) (now : Instant) : OrderValidation := ⟨orderId, none, none, now⟩

/-- **Every service has approved**, and none has taken it back. -/
def isValid (v : OrderValidation) : Bool :=
  v.courierValidatedAt.isSome && v.courierError.isNone

/-- The two records say the same, whatever their tokens. -/
def sameState (v w : OrderValidation) : Bool :=
  v.courierValidatedAt = w.courierValidatedAt && v.courierError = w.courierError

theorem sameState_iff {v w : OrderValidation} :
    v.sameState w = true
      ↔ v.courierValidatedAt = w.courierValidatedAt ∧ v.courierError = w.courierError := by
  unfold sameState
  rw [Bool.and_eq_true, decide_eq_true_eq, decide_eq_true_eq]

/-- Records that say the same are valid together. -/
theorem isValid_of_sameState {v w : OrderValidation} (h : v.sameState w = true) :
    v.isValid = w.isValid := by
  unfold isValid
  rw [(sameState_iff.1 h).1, (sameState_iff.1 h).2]

end OrderValidation

/-- **One report of a service** about an order. -/
structure ValidationFact where
  /-- Whether the service approves. -/
  isSuccessful : Bool
  /-- The courier that was found. -/
  courierId : Option Uuid
  /-- Why the service does not approve. -/
  error : Option String
  deriving DecidableEq, Repr

namespace ValidationFact

/-- The reason of a refusal that gives none. -/
def defaultError : String := "courier validation failed"

/-- The record after a report; `stamp` is the time of approval if it is the
first. -/
def applyTo (f : ValidationFact) (stamp : Instant) (v : OrderValidation) : OrderValidation :=
  if f.isSuccessful then
    { v with
      courierValidatedAt := some (v.courierValidatedAt.getD stamp)
      courierError := none }
  else { v with courierError := some (f.error.getD defaultError) }

@[simp]
theorem orderId_applyTo (f : ValidationFact) (stamp : Instant) (v : OrderValidation) :
    (f.applyTo stamp v).orderId = v.orderId := by
  unfold applyTo
  split <;> rfl

/-- **A record is valid if the last report approved.** -/
theorem isValid_applyTo (f : ValidationFact) (stamp : Instant) (v : OrderValidation) :
    (f.applyTo stamp v).isValid = f.isSuccessful := by
  unfold applyTo OrderValidation.isValid
  cases f.isSuccessful
  · exact Bool.and_false _
  · rfl

/-- The courier that a report names; a refusal names none. -/
def courier? (f : ValidationFact) : Option Uuid := if f.isSuccessful then f.courierId else none

end ValidationFact

end CourierDispatch
