import CourierDispatch.Http.Router
import CourierDispatch.Location.Service

/-!
# The location service over HTTP

Positions are posted for a courier. They are checked at once, answered when
they are queued, and saved later. The latest position of a courier can be
read.
-/

namespace CourierDispatch.LocationService

/-- What can be asked. -/
inductive Endpoint where
  /-- Reports a position. -/
  | report
  /-- Reads the latest position. -/
  | latest
  /-- Asks whether the service is well. -/
  | health

/-- The routes of the service. -/
def routes : List (Http.Route Endpoint) :=
  [⟨[.word "couriers", .parameter, .word "location"], .post, .report⟩,
   ⟨[.word "couriers", .parameter, .word "latest-position"], .get, .latest⟩,
   ⟨[.word "health"], .get, .health⟩]

/-- What is said when the queue takes no more reports. -/
def closed : String := "worker pool is shut down"

/-- Queues a position from a request. -/
def postReport (req : Http.Request) (courierId : Uuid) : Work Http.Response :=
  match req.read (Json.Record.readPair "latitude" "longitude") with
  | .error refusal => .done refusal
  | .ok (latitude, longitude) =>
    let position : Position := ⟨latitude, longitude⟩
    match position.check with
    | .error e => .done (.ofError e)
    | .ok () =>
      .call .clock fun now =>
      .call (.submit ⟨courierId, position, now⟩) fun
      | true => .done { status := 202 }
      | false => .done (.error 503 closed)

/-- Reads the latest position of a courier. -/
def readLatest (courierId : Uuid) : Work Http.Response :=
  (latestPosition courierId).bind fun
  | .ok p => .done (.json 200 p.toJson)
  | .error e => .done (.ofError e)

/-- What an endpoint does. -/
def act : Endpoint → List String → Http.Request → Work Http.Response
  | .report, params, req => Http.withUuid params (postReport req)
  | .latest, params, _ => Http.withUuid params readLatest
  | .health, _, _ => .done Http.healthy

/-- **Answers a request.** -/
def serve (req : Http.Request) : Work Http.Response := Http.respond routes act req

end CourierDispatch.LocationService
