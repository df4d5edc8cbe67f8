import CourierDispatch.Bus.Message
import CourierDispatch.Bus.Topic
import CourierDispatch.Json.Basic
import CourierDispatch.ServiceError
import CourierDispatch.Text.Blank
import CourierDispatch.Time.Instant

/-!
# Couriers and their assignments
-/

namespace CourierDispatch

/-- **A courier.** -/
structure Courier where
  /-- The identifier. -/
  id : Uuid
  /-- The first name. -/
  firstName : String
  /-- Whether an order can be given to the courier. -/
  isAvailable : Bool
  deriving DecidableEq

/-- **An order given to a courier.** -/
structure Assignment where
  /-- The order. -/
  orderId : Uuid
  /-- The courier. -/
  courierId : Uuid
  /-- When. -/
  createdAt : Instant
  deriving DecidableEq

namespace Courier

/-- A new courier. -/
def create (id : Uuid) (firstName : String) : Courier := ⟨id, firstName, true⟩

/-- The JSON form. -/
def toJson (c : Courier) : Json :=
  .object [("id", .string c.id.toText), ("firstname", .string c.firstName),
    ("is_available", .bool c.isAvailable)]

/-- The largest number of characters of a name. -/
def nameLimit : Nat := 40

/-- **The name in a text**, without the blanks around it. -/
def checkName (s : String) : Except ServiceError String :=
  let name := Text.trim s
  if name.isEmpty then .error (.validation "firstname is required")
  else if nameLimit < name.length then
    .error (.validation s!"firstname must be at most {nameLimit} characters")
  else .ok name

end Courier

/-- The JSON form. -/
def Assignment.toJson (a : Assignment) : Json :=
  .object [("order_id", .string a.orderId.toText), ("courier_id", .string a.courierId.toText),
    ("created_at", .string a.createdAt.toText)]

/-- **The report that an order was given to a courier.** -/
def Assignment.report (a : Assignment) : OrderValidationMessage :=
  ⟨true, Topic.courierService, a.orderId.toText, some a.courierId.toText, none⟩

end CourierDispatch
