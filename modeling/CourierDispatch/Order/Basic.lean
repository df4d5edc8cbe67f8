import CourierDispatch.Bytes
import CourierDispatch.Json.Basic
import CourierDispatch.ServiceError
import CourierDispatch.Text.Quoted
import CourierDispatch.Time.Rfc3339

/-!
# Orders

An order is pending until a courier is found for it, and accepted from then
on. Outside the program it is a row, whose status is text.
-/

namespace CourierDispatch

/-- **How far an order has come.** -/
inductive OrderStatus where
  /-- Not every service has approved it yet. -/
  | pending
  /-- Every service has approved it. -/
  | accepted
  deriving DecidableEq, Repr

namespace OrderStatus

/-- The word for a status. -/
def toText : OrderStatus → String
  | pending => "pending"
  | accepted => "accepted"

/-- The status of a word. -/
def ofText? : String → Option OrderStatus
  | "pending" => some pending
  | "accepted" => some accepted
  | _ => none

@[simp]
theorem ofText?_toText (s : OrderStatus) : ofText? s.toText = some s := by
  cases s <;> rfl

end OrderStatus

/-- **An order.** -/
structure Order where
  /-- Its identifier. -/
  id : Uuid
  /-- The courier that delivers it, once there is one. -/
  courierId : Option Uuid
  /-- Where the customer can be called. -/
  phoneNumber : String
  /-- How far it has come. -/
  status : OrderStatus
  /-- When it was created. -/
  createdAt : Instant
  deriving DecidableEq

/-- **An order as a row** of a database. -/
structure OrderRow where
  /-- Its identifier. -/
  id : Uuid
  /-- The courier that delivers it, once there is one. -/
  courierId : Option Uuid
  /-- Where the customer can be called. -/
  phoneNumber : String
  /-- The word for its status. -/
  status : String
  /-- When it was created. -/
  createdAt : Instant
  deriving DecidableEq

namespace Order

/-- A new order. -/
def create (id : Uuid) (phoneNumber : String) (now : Instant) : Order :=
  ⟨id, none, phoneNumber, .pending, now⟩

/-- The JSON form. -/
def toJson (o : Order) : Json :=
  .object [("id", .string o.id.toText),
    ("courier_id", Json.ofOptionalString (o.courierId.map Uuid.toText)),
    ("customer_phone_number", .string o.phoneNumber), ("status", .string o.status.toText),
    ("created_at", .string o.createdAt.toText)]

/-- The row of an order. -/
def toRow (o : Order) : OrderRow :=
  ⟨o.id, o.courierId, o.phoneNumber, o.status.toText, o.createdAt⟩

/-- The order of a row; a row with an unknown status is none. -/
def ofRow (r : OrderRow) : Except ServiceError Order :=
  match OrderStatus.ofText? r.status with
  | some status => .ok ⟨r.id, r.courierId, r.phoneNumber, status, r.createdAt⟩
  | none => .error (.storage ("unknown order status " ++ Text.quoted r.status))

/-- Rows lose nothing. -/
theorem ofRow_toRow (o : Order) : ofRow o.toRow = .ok o := by
  simp [ofRow, toRow]

end Order

/-! ## Phone numbers -/

/-- What follows a plus sign at the beginning; nothing if there is none. -/
def afterPlus (s : String) : String :=
  match s.toList with
  | '+' :: rest => String.ofList rest
  | _ => ""

/-- **A telephone number** in international form: a plus sign and two to
fifteen bytes, all of them digits, the first of which is not zero. -/
def isPhoneNumber (s : String) : Bool :=
  let digits := Bytes.ofText (afterPlus s)
  2 ≤ digits.length && digits.length ≤ 15 && digits.all (fun b => 48 ≤ b && b ≤ 57)
    && (afterPlus s).toList.head? ≠ some '0'

/-- Refuses what is no telephone number. -/
def checkPhoneNumber (s : String) : Except ServiceError Unit :=
  if isPhoneNumber s then .ok ()
  else .error (.validation s!"customer_phone_number {Text.quoted s} is not an E.164 phone number")

end CourierDispatch
