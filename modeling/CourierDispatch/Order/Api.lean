import CourierDispatch.Http.Router
import CourierDispatch.Order.Service
import CourierDispatch.Time.Rfc3339

/-!
# The order service over HTTP

Orders are created by posting a telephone number and read by their
identifier.
-/

namespace CourierDispatch.OrderService

/-- What can be asked. -/
inductive Endpoint where
  /-- Creates an order. -/
  | create
  /-- Reads an order. -/
  | read
  /-- Asks whether the service is well. -/
  | health

/-- The routes of the service. -/
def routes : List (Http.Route Endpoint) :=
  [⟨[.word "orders"], .post, .create⟩,
   ⟨[.word "orders", .parameter], .get, .read⟩,
   ⟨[.word "health"], .get, .health⟩]

/-- What is shown of a new order. -/
def createdJson (o : Order) : Json :=
  .object [("id", .string o.id.toText), ("status", .string o.status.toText)]

/-- What is shown of an order. -/
def shownJson (o : Order) : Json :=
  .object [("id", .string o.id.toText), ("status", .string o.status.toText),
    ("courier_id", Json.ofOptionalString (o.courierId.map Uuid.toText)),
    ("created_at", .string o.createdAt.toText)]

/-- Creates an order from a request. -/
def postOrder (req : Http.Request) : Work Http.Response :=
  match req.read (Json.Record.readText "customer_phone_number") with
  | .error refusal => .done refusal
  | .ok phone =>
    (createOrder phone).bind fun
    | .ok o => .done (.json 202 (createdJson o))
    | .error e => .done (.ofError e)

/-- Reads an order. -/
def readOrder (id : Uuid) : Work Http.Response :=
  (getOrder id).bind fun
  | .ok o => .done (.json 200 (shownJson o))
  | .error e => .done (.ofError e)

/-- What an endpoint does. -/
def act : Endpoint → List String → Http.Request → Work Http.Response
  | .create, _, req => postOrder req
  | .read, params, _ => Http.withUuid params readOrder
  | .health, _, _ => .done Http.healthy

/-- **Answers a request.** -/
def serve (req : Http.Request) : Work Http.Response := Http.respond routes act req

end CourierDispatch.OrderService
