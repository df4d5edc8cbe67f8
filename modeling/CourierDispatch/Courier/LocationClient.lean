import CourierDispatch.Http.Exchange
import CourierDispatch.Http.Status
import CourierDispatch.Json.Shape
import CourierDispatch.Position

/-!
# Asking where a courier was last seen

The courier service asks the location service. That it has never seen the
courier is an answer; anything else but a position is a failure.
-/

namespace CourierDispatch.LocationClient

/-- The request for the last position of a courier. -/
def positionRequest (baseUrl : String) (courierId : Uuid) : Http.Call :=
  { method := "GET"
    url := s!"{Http.trimSlashes baseUrl}/couriers/{courierId}/latest-position"
    accept := none
    contentType := none
    body := none }

/-- What stands for the reason when an answer cannot be read. -/
def unreadable : String := "error decoding response body"

/-- **The position in an answer**; `none` stands for no answer. -/
def readPosition (courierId : Uuid) : Option Http.Reply → Except ServiceError (Option Position)
  | none => .error (.transport Http.noAnswer)
  | some reply =>
    if reply.status = 404 then .ok none
    else if reply.isSuccess then
      match Json.Record.readPair "latitude" "longitude" reply.body with
      | .ok (latitude, longitude) => .ok (some ⟨latitude, longitude⟩)
      | .error _ => .error (.transport unreadable)
    else
      .error (.transport
        s!"location service returned {Http.statusText reply.status} for courier {courierId}")

/-- **Asks where a courier was last seen.** -/
def latestPosition {σ : Type} (server : Http.Server σ) (baseUrl : String) (courierId : Uuid) :
    StateM σ (Except ServiceError (Option Position)) :=
  fun s =>
    let (reply, s) := server (positionRequest baseUrl courierId) s
    (readPosition courierId reply, s)

end CourierDispatch.LocationClient
