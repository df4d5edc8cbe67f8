import CourierDispatch.Bus.Message
import CourierDispatch.Position

/-!
# Location reports
-/

namespace CourierDispatch

/-- **A report of where a courier is.** -/
structure LocationReport where
  /-- The courier. -/
  courierId : Uuid
  /-- Where it is. -/
  position : Position
  /-- When it was there. -/
  createdAt : Instant
  deriving DecidableEq

namespace LocationReport

/-- **The message of a report.** -/
def message (r : LocationReport) : CourierLocationMessage :=
  ⟨r.courierId.toText, r.position.latitude, r.position.longitude, r.createdAt⟩

/-- **The report in a message**, if its identifier is one. -/
def ofMessage? (m : CourierLocationMessage) : Option LocationReport :=
  (Uuid.parse? m.courierId).map fun id => ⟨id, ⟨m.latitude, m.longitude⟩, m.createdAt⟩

end LocationReport

end CourierDispatch
