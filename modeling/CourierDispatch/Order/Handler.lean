import CourierDispatch.HandlerError
import CourierDispatch.Order.Service

/-!
# Reports from the bus

Reports of other services come as messages. A message that makes no sense is
passed over, since it would make none the next time; and so is one about an
order that does not exist.
-/

namespace CourierDispatch.OrderService

/-- A report with the service that makes it and the order it is about. -/
structure Report where
  /-- The service. -/
  service : String
  /-- The order. -/
  orderId : Uuid
  /-- What it reports. -/
  fact : ValidationFact

/-- **The report in a message**, if its identifiers are identifiers. -/
def Report.ofMessage? (m : OrderValidationMessage) : Option Report :=
  match Uuid.parse? m.orderId with
  | none => none
  | some orderId =>
    match m.courierId with
    | none => some ⟨m.serviceName, orderId, ⟨m.isSuccessful, none, m.error⟩⟩
    | some text =>
      match Uuid.parse? text with
      | none => none
      | some courierId =>
        some ⟨m.serviceName, orderId, ⟨m.isSuccessful, some courierId, m.error⟩⟩

/-- The report in the JSON form of a message. -/
def Report.ofJson? (j : Json) : Option Report :=
  (OrderValidationMessage.ofJson? j).bind ofMessage?

/-- The message of a report. -/
def Report.message (r : Report) : OrderValidationMessage :=
  ⟨r.fact.isSuccessful, r.service, r.orderId.toText, r.fact.courierId.map Uuid.toText,
    r.fact.error⟩

/-- A report is read back from its message. -/
@[simp]
theorem Report.ofJson?_message (r : Report) : Report.ofJson? r.message.toJson = some r := by
  obtain ⟨service, orderId, ⟨ok, courierId, error⟩⟩ := r
  unfold Report.ofJson? Report.ofMessage? Report.message
  rw [OrderValidationMessage.ofJson?_toJson, Option.bind_some]
  cases courierId with
  | none => simp only [Uuid.parse?_toText, Option.map_none]
  | some c => simp only [Uuid.parse?_toText, Option.map_some]

/-- What a failure to take in a report says. -/
def handlingFailed (orderId : Uuid) (e : ServiceError) : HandlerError :=
  ⟨s!"failed to validate order {orderId}", e⟩

/-- **Handles a message.** -/
def handle (j : Json) : Work (Except HandlerError Unit) :=
  match Report.ofJson? j with
  | none => .done (.ok ())
  | some r =>
    (validate r.service r.orderId r.fact).bind fun
    | .ok _ => .done (.ok ())
    | .error e =>
      if e.isNotFound then .done (.ok ()) else .done (.error (handlingFailed r.orderId e))

end CourierDispatch.OrderService
