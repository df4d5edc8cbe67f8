/-!
# Faults between a message and its bytes
-/

namespace CourierDispatch

/-- **Why a message and its bytes do not fit together.** The text gives the
reason in words and decides nothing. -/
inductive WireError where
  /-- The bytes are no envelope. -/
  | malformedEnvelope (reason : String)
  /-- A text is no schema. -/
  | invalidSchema (reason : String)
  /-- A value does not match its schema. -/
  | encoding (reason : String)
  /-- The payload does not read under its schema. -/
  | decoding (reason : String)
  deriving DecidableEq, Repr

/-- The wording of a fault. -/
def WireError.message : WireError → String
  | malformedEnvelope reason => "malformed envelope: " ++ reason
  | invalidSchema reason => "invalid avro schema: " ++ reason
  | encoding reason => "payload does not match schema: " ++ reason
  | decoding reason => "failed to decode avro payload: " ++ reason

end CourierDispatch
