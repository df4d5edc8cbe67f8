import CourierDispatch.Uuid

/-!
# What can go wrong in a service

The causes fall into the groups that callers act on: something was not
found, somebody else was faster (try again), the input was wrong (give up),
or another part of the system failed (pass it on).
-/

namespace CourierDispatch

/-- **Why a service did not do what it was asked.** -/
inductive ServiceError where
  /-- There is no such thing. -/
  | notFound (entity : String) (id : String)
  /-- The validation of an order changed between reading and writing it. -/
  | concurrentValidationConflict (order : Uuid)
  /-- Every courier is taken. -/
  | noCourierAvailable (order : Uuid)
  /-- A message makes no sense. -/
  | malformedMessage (reason : String)
  /-- The caller's input is not acceptable. -/
  | validation (reason : String)
  /-- Another service could not be reached. -/
  | transport (reason : String)
  /-- The store failed. -/
  | storage (reason : String)
  /-- No connection to the store could be had. -/
  | pool (reason : String)
  deriving DecidableEq, Repr

namespace ServiceError

/-- The wording of an error. -/
def message : ServiceError → String
  | notFound entity id => s!"{entity} {id} was not found"
  | concurrentValidationConflict order =>
    s!"validation of order {order} was changed concurrently"
  | noCourierAvailable order => s!"no courier is available for order {order}"
  | malformedMessage reason => "malformed message: " ++ reason
  | validation reason => reason
  | transport reason => "transport error: " ++ reason
  | storage reason => "storage error: " ++ reason
  | pool reason => "connection pool error: " ++ reason

/-- The name of the kind of an error. -/
def kind : ServiceError → String
  | notFound _ _ => "NotFound"
  | concurrentValidationConflict _ => "ConcurrentValidationConflict"
  | noCourierAvailable _ => "NoCourierAvailable"
  | malformedMessage _ => "MalformedMessage"
  | validation _ => "Validation"
  | transport _ => "Transport"
  | storage _ => "Storage"
  | pool _ => "Pool"

/-- An error and what is behind it, the outermost first: a failure of the
store has a cause of its own. -/
def reasons : ServiceError → List String
  | e@(storage reason) => [e.message, reason]
  | e => [e.message]

/-- Something was not found. -/
def isNotFound : ServiceError → Bool
  | notFound _ _ => true
  | _ => false

/-- Trying again later may succeed. -/
def isConflict : ServiceError → Bool
  | concurrentValidationConflict _ => true
  | noCourierAvailable _ => true
  | _ => false

end ServiceError

end CourierDispatch
