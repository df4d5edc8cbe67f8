import CourierDispatch.ServiceError

/-!
# Failed messages

A handler that fails says what it was about to do and why that failed. The
message it failed on is delivered again.
-/

namespace CourierDispatch

/-- **Why a message was not handled.** -/
structure HandlerError where
  /-- What the handler was about to do. -/
  context : String
  /-- Why it could not. -/
  cause : ServiceError
  deriving DecidableEq, Repr

/-- The wording of a failure, the outermost reason first. -/
def HandlerError.message (e : HandlerError) : String :=
  ": ".intercalate (e.context :: e.cause.reasons)

end CourierDispatch
