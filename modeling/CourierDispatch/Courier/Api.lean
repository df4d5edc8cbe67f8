import CourierDispatch.Courier.Service
import CourierDispatch.Http.Router

/-!
# The courier service over HTTP

Couriers are created by posting a name and read, with the position where
they were last seen, by their identifier.
-/

namespace CourierDispatch.CourierService

/-- What can be asked. -/
inductive Endpoint where
  /-- Creates a courier. -/
  | create
  /-- Reads a courier. -/
  | read
  /-- Asks whether the service is well. -/
  | health

/-- The routes of the service. -/
def routes : List (Http.Route Endpoint) :=
  [⟨[.word "couriers"], .post, .create⟩,
   ⟨[.word "couriers", .parameter], .get, .read⟩,
   ⟨[.word "health"], .get, .health⟩]

/-- What is shown of a new courier. -/
def createdJson (c : Courier) : Json :=
  .object [("status", .string "success"), ("message", .string "New courier created."),
    ("entity", c.toJson)]

/-- What is shown of a courier. -/
def Sighting.toJson (s : Sighting) : Json :=
  .object [("id", .string s.courier.id.toText), ("firstname", .string s.courier.firstName),
    ("is_available", .bool s.courier.isAvailable),
    ("latest_position", match s.position with
      | some p => p.toJson
      | none => .null)]

/-- Creates a courier from a request. -/
def postCourier (req : Http.Request) : Work Http.Response :=
  match req.read (Json.Record.readText "firstname") with
  | .error refusal => .done refusal
  | .ok name =>
    (createCourier name).bind fun
    | .ok c => .done (.json 201 (createdJson c))
    | .error e => .done (.ofError e)

/-- Reads a courier. -/
def readCourier (id : Uuid) : Work Http.Response :=
  (getCourier id).bind fun
  | .ok s => .done (.json 200 s.toJson)
  | .error e => .done (.ofError e)

/-- What an endpoint does. -/
def act : Endpoint → List String → Http.Request → Work Http.Response
  | .create, _, req => postCourier req
  | .read, params, _ => Http.withUuid params readCourier
  | .health, _, _ => .done Http.healthy

/-- **Answers a request.** -/
def serve (req : Http.Request) : Work Http.Response := Http.respond routes act req

end CourierDispatch.CourierService
