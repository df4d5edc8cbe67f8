import CourierDispatch.Json.Basic
import CourierDispatch.ServiceError

/-!
# Positions

Where a courier is: degrees of latitude and of longitude.
-/

namespace CourierDispatch

/-- **A position.** -/
structure Position where
  /-- Degrees north. -/
  latitude : Binary64
  /-- Degrees east. -/
  longitude : Binary64
  deriving DecidableEq

namespace Position

/-- The JSON form. -/
def toJson (p : Position) : Json :=
  .object [("latitude", Json.ofReal p.latitude), ("longitude", Json.ofReal p.longitude)]

/-- A number is between a bound and its negative; what is no number is
not. -/
def within (bound : Nat) (x : Binary64) : Bool :=
  (Binary64.ofInt (-(bound : Int))).le x && x.le (Binary64.ofInt bound)

/-- **Refuses what is nowhere on earth.** -/
def check (p : Position) : Except ServiceError Unit :=
  if !within 90 p.latitude then .error (.validation "latitude must be between -90 and 90")
  else if !within 180 p.longitude then
    .error (.validation "longitude must be between -180 and 180")
  else .ok ()

end Position

end CourierDispatch
