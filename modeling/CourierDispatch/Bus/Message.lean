import CourierDispatch.Bus.Topic
import CourierDispatch.Json.Basic
import CourierDispatch.Time.Rfc3339

/-!
# Messages

The three messages that cross the bus, with their schemas and their JSON
form. A message type accepts more JSON than its schema: members it does not
know are ignored, and a record may be an array of its fields.
-/

namespace CourierDispatch

/-- **The announcement of an order**, when it is created and when it is
updated. The identifier is text here: whoever reads the message decides what
to do about one that is none. -/
structure OrderMessage where
  /-- What happened to the order. -/
  event : String
  /-- The order. -/
  orderId : String
  deriving DecidableEq, Repr

/-- **A validation fact**: what a service that must approve an order found
out about it. -/
structure OrderValidationMessage where
  /-- Whether the service approves. -/
  isSuccessful : Bool
  /-- The service. -/
  serviceName : String
  /-- The order. -/
  orderId : String
  /-- The courier that will deliver it. -/
  courierId : Option String
  /-- Why the service does not approve. -/
  error : Option String
  deriving DecidableEq, Repr

/-- **A position report** of a courier. -/
structure CourierLocationMessage where
  /-- The courier. -/
  courierId : String
  /-- Degrees north. -/
  latitude : Binary64
  /-- Degrees east. -/
  longitude : Binary64
  /-- When the courier was there. -/
  createdAt : Instant
  deriving DecidableEq

/-! ## Announcements of orders -/

namespace OrderMessage

/-- The schema text. -/
def schemaText : String :=
  "\n".intercalate [
    "\x7b",
    "  \"type\": \"record\",",
    "  \"name\": \"OrderMessage\",",
    "  \"namespace\": \"delivery.order.v1\",",
    "  \"fields\": [",
    "    \x7b \"name\": \"event\", \"type\": \"string\" \x7d,",
    "    \x7b",
    "      \"name\": \"payload\",",
    "      \"type\": \x7b",
    "        \"type\": \"record\",",
    "        \"name\": \"OrderPayload\",",
    "        \"fields\": [ \x7b \"name\": \"order_id\", \"type\": \"string\" \x7d ]",
    "      \x7d",
    "    \x7d",
    "  ]",
    "\x7d"]

/-- The JSON form. -/
def toJson (m : OrderMessage) : Json :=
  .object [("event", .string m.event),
    ("payload", .object [("order_id", .string m.orderId)])]

/-- Reads the JSON form. -/
def ofJson? (j : Json) : Option OrderMessage :=
  match j.record? ["event", "payload"] with
  | some [some (.string event), some payload] =>
    match payload.record? ["order_id"] with
    | some [some (.string orderId)] => some ⟨event, orderId⟩
    | _ => none
  | _ => none

/-- The JSON form reads back as the same announcement. -/
@[simp]
theorem ofJson?_toJson (m : OrderMessage) : ofJson? m.toJson = some m := rfl

end OrderMessage

/-! ## Validation facts -/

namespace OrderValidationMessage

/-- The schema text. -/
def schemaText : String :=
  "\n".intercalate [
    "\x7b",
    "  \"type\": \"record\",",
    "  \"name\": \"OrderValidationMessage\",",
    "  \"namespace\": \"delivery.order.v1\",",
    "  \"fields\": [",
    "    \x7b \"name\": \"is_successful\", \"type\": \"boolean\" \x7d,",
    "    \x7b \"name\": \"service_name\", \"type\": \"string\" \x7d,",
    "    \x7b \"name\": \"order_id\", \"type\": \"string\" \x7d,",
    "    \x7b",
    "      \"name\": \"payload\",",
    "      \"type\": \x7b",
    "        \"type\": \"record\",",
    "        \"name\": \"ValidationPayload\",",
    "        \"fields\": [ \x7b \"name\": \"courier_id\", \"type\": [\"null\", \"string\"], \"default\": null \x7d ]",
    "      \x7d",
    "    \x7d,",
    "    \x7b \"name\": \"error\", \"type\": [\"null\", \"string\"], \"default\": null \x7d",
    "  ]",
    "\x7d"]

/-- The JSON form; what is absent is null. -/
def toJson (m : OrderValidationMessage) : Json :=
  .object [("is_successful", .bool m.isSuccessful), ("service_name", .string m.serviceName),
    ("order_id", .string m.orderId),
    ("payload", .object [("courier_id", Json.ofOptionalString m.courierId)]),
    ("error", Json.ofOptionalString m.error)]

/-- Reads the JSON form; the courier and the error may be missing or null. -/
def ofJson? (j : Json) : Option OrderValidationMessage :=
  match j.record? ["is_successful", "service_name", "order_id", "payload", "error"] with
  | some [some (.bool ok), some (.string service), some (.string orderId), some payload, error] =>
    match payload.record? ["courier_id"] with
    | some [courier] =>
      match Json.optionalString? courier, Json.optionalString? error with
      | some courierId, some error => some ⟨ok, service, orderId, courierId, error⟩
      | _, _ => none
    | _ => none
  | _ => none

/-- The JSON form reads back as the same fact. -/
@[simp]
theorem ofJson?_toJson (m : OrderValidationMessage) : ofJson? m.toJson = some m := by
  unfold toJson ofJson? Json.record?
  simp [Table.lookup]

end OrderValidationMessage

/-! ## Position reports -/

namespace CourierLocationMessage

/-- The schema text. -/
def schemaText : String :=
  "\n".intercalate [
    "\x7b",
    "  \"type\": \"record\",",
    "  \"name\": \"CourierLocationMessage\",",
    "  \"namespace\": \"delivery.location.v1\",",
    "  \"fields\": [",
    "    \x7b \"name\": \"courier_id\", \"type\": \"string\" \x7d,",
    "    \x7b \"name\": \"latitude\", \"type\": \"double\" \x7d,",
    "    \x7b \"name\": \"longitude\", \"type\": \"double\" \x7d,",
    "    \x7b \"name\": \"created_at\", \"type\": \"string\" \x7d",
    "  ]",
    "\x7d"]

/-- The JSON form. -/
def toJson (m : CourierLocationMessage) : Json :=
  .object [("courier_id", .string m.courierId), ("latitude", Json.ofReal m.latitude),
    ("longitude", Json.ofReal m.longitude), ("created_at", .string m.createdAt.toText)]

/-- Reads the JSON form. -/
def ofJson? (j : Json) : Option CourierLocationMessage :=
  match j.record? ["courier_id", "latitude", "longitude", "created_at"] with
  | some [some (.string courierId), some latitude, some longitude, some (.string createdAt)] =>
    match latitude.real?, longitude.real?, Instant.parse? createdAt with
    | some latitude, some longitude, some createdAt =>
      some ⟨courierId, latitude, longitude, createdAt⟩
    | _, _, _ => none
  | _ => none

end CourierLocationMessage

end CourierDispatch
