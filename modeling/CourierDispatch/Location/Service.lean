import CourierDispatch.Fate
import CourierDispatch.HandlerError
import CourierDispatch.Location.Store
import CourierDispatch.Script

/-!
# The location service

Reports are stored and then announced, in this order, so that a report whose
saving has failed is never announced. Reports that come over the bus are
stored only: they have been announced already.
-/

namespace CourierDispatch.LocationService

/-- **The calls that the service makes.** -/
inductive Call where
  /-- Reads the clock. -/
  | clock
  /-- Stores a report. -/
  | save (r : LocationReport)
  /-- Finds where a courier was last seen. -/
  | latestPosition (courierId : Uuid)
  /-- Announces a report. -/
  | publish (m : CourierLocationMessage)
  /-- Puts a report into the queue of reports to be saved; the answer says
  whether the queue took it. -/
  | submit (r : LocationReport)

/-- The name of the point at which a call can fail; the clock never does,
and the queue answers for itself. -/
def Call.point? : Call → Option String
  | clock => none
  | submit _ => none
  | save _ => some "save_location"
  | latestPosition _ => some "latest_position"
  | publish _ => some "publish_location"

/-- What answers a call. -/
abbrev Answer : Call → Type
  | .clock => Instant
  | .save _ => Except ServiceError Unit
  | .latestPosition _ => Except ServiceError Position
  | .publish _ => Except ServiceError Unit
  | .submit _ => Bool

/-- Work of the service: a script of its calls. -/
abbrev Work (α : Type) := Script Call Answer α

/-- **Stores a report and announces it.** -/
def saveReport (r : LocationReport) : Work (Except ServiceError Unit) :=
  .call (.save r) fun
  | .error e => .done (.error e)
  | .ok () => .call (.publish r.message) .done

/-- **Finds where a courier was last seen.** -/
def latestPosition (courierId : Uuid) : Work (Except ServiceError Position) :=
  .call (.latestPosition courierId) .done

/-! ## Reports from the bus -/

/-- What a failure to store a report says. -/
def handlingFailed (courierId : Uuid) (e : ServiceError) : HandlerError :=
  ⟨s!"can not store location of courier {courierId}", e⟩

/-- The report in the JSON form of a message. -/
def reportOfJson? (j : Json) : Option LocationReport :=
  (CourierLocationMessage.ofJson? j).bind LocationReport.ofMessage?

/-- **Handles a message**; one that makes no sense is passed over. -/
def track (j : Json) : Work (Except HandlerError Unit) :=
  match reportOfJson? j with
  | none => .done (.ok ())
  | some r =>
    .call (.save r) fun
    | .ok () => .done (.ok ())
    | .error e => .done (.error (handlingFailed r.courierId e))

/-! ## The calls at work -/

/-- **What the service works on**: its store, what it has announced, and the
queue of reports to be saved. -/
structure State where
  /-- The store. -/
  store : LocationStore := .empty
  /-- The announcements, first made first. -/
  announced : List CourierLocationMessage := []
  /-- The queue, first submitted first. -/
  queue : List LocationReport := []
  /-- Whether the queue takes reports. -/
  accepting : Bool := true

/-- **Answers a call.** The clock never fails. -/
def answer (m : Moment) : (c : Call) → State → Answer c × State
  | .clock, s => (m.now, s)
  | .save r, s => m.fate.apply (fun s => (.ok (), { s with store := s.store.save r })) s
  | .latestPosition id, s => m.fate.apply (fun s => (s.store.latestPosition id, s)) s
  | .publish r, s =>
    m.fate.apply (fun s => (.ok (), { s with announced := s.announced ++ [r] })) s
  | .submit r, s =>
    if s.accepting then (true, { s with queue := s.queue ++ [r] }) else (false, s)

end CourierDispatch.LocationService
