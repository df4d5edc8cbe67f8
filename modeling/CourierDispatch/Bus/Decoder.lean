import CourierDispatch.Bus.Envelope
import CourierDispatch.Registry.Basic

/-!
# From messages to JSON

A message that cannot be read falls into one of two groups, and they must
not be confused. If the message itself is at fault, reading it again will
not help, and it is skipped. If the registry could not be asked, the message
may be perfectly good, and it must not be lost.
-/

namespace CourierDispatch

/-- **Why a message cannot be read.** -/
inductive DecodeError where
  /-- The bytes are no envelope, or do not read under their schema, or their
  schema is none. -/
  | malformed (e : WireError)
  /-- No schema has the number on the envelope. -/
  | unknownSchema (id : UInt32)
  /-- The registry could not be asked. -/
  | registry (e : RegistryError)
  deriving DecidableEq

/-- The wording of an error. -/
def DecodeError.message : DecodeError → String
  | malformed e => e.message
  | unknownSchema id => s!"writer schema {id.toNat} is unknown to the registry"
  | registry e => e.message

/-- How a failed look-up shows to a reader. -/
def DecodeError.ofRegistryError : RegistryError → DecodeError
  | .schemaNotFound id => unknownSchema id
  | .schema e => malformed e
  | e => registry e

namespace Registry

variable {σ : Type}

/-- **The JSON form of a message.** -/
def decode (registry : Registry σ) (message : Bytes) : StateM σ (Except DecodeError Json) := do
  match Envelope.decode message with
  | .error fault => return .error (.malformed (.malformedEnvelope fault.message))
  | .ok envelope =>
    match ← registry.resolve envelope.schemaId with
    | .error err => return .error (DecodeError.ofRegistryError err)
    | .ok codec =>
      match codec.jsonOfBinary envelope.payload with
      | .error err => return .error (.malformed err)
      | .ok json => return .ok json

/-- What is no envelope is malformed, and the registry is not asked. -/
theorem decode_of_unframed {registry : Registry σ} {message : Bytes} {fault : EnvelopeFault}
    (unframed : Envelope.decode message = .error fault) (s : σ) :
    registry.decode message s = (.error (.malformed (.malformedEnvelope fault.message)), s) := by
  unfold decode
  rw [unframed]
  rfl

/-- Without the codec of its number an envelope is not read. -/
theorem decode_of_unresolved {registry : Registry σ} {message : Bytes} {envelope : Envelope}
    {e : RegistryError} {s s' : σ} (framed : Envelope.decode message = .ok envelope)
    (unresolved : registry.resolve envelope.schemaId s = (.error e, s')) :
    registry.decode message s = (.error (DecodeError.ofRegistryError e), s') := by
  simp only [decode, framed, bind, StateT.bind, unresolved]
  rfl

/-- A payload that the codec does not take is malformed. -/
theorem decode_of_unread {registry : Registry σ} {message : Bytes} {envelope : Envelope}
    {c : Avro.Codec} {e : WireError} {s s' : σ} (framed : Envelope.decode message = .ok envelope)
    (resolved : registry.resolve envelope.schemaId s = (.ok c, s'))
    (unread : c.jsonOfBinary envelope.payload = .error e) :
    registry.decode message s = (.error (.malformed e), s') := by
  simp only [decode, framed, bind, StateT.bind, resolved, unread]
  rfl

/-- A message is decoded if it is an envelope, the registry gives the codec of
its number, and the codec takes the payload. -/
theorem decode_eq_ok {registry : Registry σ} {message : Bytes} {envelope : Envelope}
    {c : Avro.Codec} {json : Json} {s s' : σ} (framed : Envelope.decode message = .ok envelope)
    (resolved : registry.resolve envelope.schemaId s = (.ok c, s'))
    (read : c.jsonOfBinary envelope.payload = .ok json) :
    registry.decode message s = (.ok json, s') := by
  simp only [decode, framed, bind, StateT.bind, resolved, read]
  rfl

end Registry

end CourierDispatch
