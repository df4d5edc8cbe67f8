import CourierDispatch.Order.Validation
import CourierDispatch.Table

/-!
# The store of orders and validations

The store keeps orders and validation records by order. Each change of a
record gets a new token, a time in microseconds that is later than every
token before it even if the clock stands still or goes back, so that two
versions of a record never have the same token.
-/

namespace CourierDispatch

/-- **Orders and their validations.** -/
structure OrderStore where
  /-- The orders. -/
  orders : Table Uuid Order := Table.empty
  /-- The validation records, by order. -/
  validations : Table Uuid OrderValidation := Table.empty
  /-- The last token given out, in microseconds. -/
  lastToken : Int := 0

namespace OrderStore

/-- The store without orders. -/
def empty : OrderStore := {}

/-! ## Orders -/

/-- Stores an order in place of one with its identifier. -/
def insertOrder (o : Order) (s : OrderStore) : OrderStore :=
  { s with orders := s.orders.put o.id o }

/-- The order of an identifier. -/
def findOrder (id : Uuid) (s : OrderStore) : Except ServiceError Order :=
  match s.orders.get? id with
  | some o => .ok o
  | none => .error (.notFound "order" id.toText)

/-- **Changes an order**: its courier and its status, and nothing else. -/
def updateOrder (o : Order) (s : OrderStore) : Except ServiceError Unit × OrderStore :=
  match s.orders.get? o.id with
  | some stored =>
    (.ok (), { s with
      orders := s.orders.put o.id { stored with courierId := o.courierId, status := o.status } })
  | none => (.error (.notFound "order" o.id.toText), s)

/-! ## Validations -/

/-- The next token, in microseconds: the time, or what follows the last
token if that is later. -/
def nextToken (now : Instant) (s : OrderStore) : Int := max now.micros (s.lastToken + 1)

/-- The store with a new version of a record, under the next token. -/
def writeValidation (now : Instant) (v : OrderValidation) (s : OrderStore) :
    OrderValidation × OrderStore :=
  let token := s.nextToken now
  let stored := { v with updatedAt := (Instant.ofMicros? token).getD now }
  (stored, { s with
    validations := s.validations.put v.orderId stored
    lastToken := token })

/-- The record of an order, if there is one. -/
def findValidation (id : Uuid) (s : OrderStore) : Option OrderValidation := s.validations.get? id

/-- **Stores the first version of a record**; refused if there is one. -/
def insertValidation (now : Instant) (v : OrderValidation) (s : OrderStore) :
    Except ServiceError OrderValidation × OrderStore :=
  match s.validations.get? v.orderId with
  | some _ => (.error (.concurrentValidationConflict v.orderId), s)
  | none =>
    let (stored, s) := s.writeValidation now v
    (.ok stored, s)

/-- **Stores a new version of a record**; refused unless the version there
still has the token that was read. -/
def updateValidation (now : Instant) (v : OrderValidation) (expected : Instant)
    (s : OrderStore) : Except ServiceError OrderValidation × OrderStore :=
  match s.validations.get? v.orderId with
  | none => (.error (.concurrentValidationConflict v.orderId), s)
  | some there =>
    if there.updatedAt ≠ expected then (.error (.concurrentValidationConflict v.orderId), s)
    else
      let (stored, s) := s.writeValidation now v
      (.ok stored, s)

end OrderStore

end CourierDispatch
