import CourierDispatch.Bus.Envelope
import CourierDispatch.Bus.Topic
import CourierDispatch.Registry.Basic
import CourierDispatch.ServiceError

/-!
# From events to messages

An event becomes a message in four steps: its schema gets a number, the
codec of that number encodes it, and the envelope joins the two.
-/

namespace CourierDispatch

/-- **Why an event was not published.** -/
inductive PublishError where
  /-- The registry gave no number or no codec. -/
  | registry (e : RegistryError)
  /-- The event does not fit its schema. -/
  | encoding (reason : String)
  /-- The message was not accepted for sending. -/
  | enqueue (topic reason : String)
  deriving DecidableEq

namespace PublishError

/-- The wording of an error. -/
def message : PublishError → String
  | registry e => "schema registration failed: " ++ e.message
  | encoding reason => "failed to encode event: " ++ reason
  | enqueue topic reason => s!"failed to enqueue message for {topic}: {reason}"

/-- An event whose bytes could not be made. -/
def ofWireError (e : WireError) : PublishError := encoding e.message

/-- For a service, a failed publication is a failed transport. -/
def toServiceError (e : PublishError) : ServiceError := .transport e.message

end PublishError

/-- **Turns events into messages** under the value schema of a topic. -/
structure Encoder where
  /-- The subject of the schema. -/
  subject : String
  /-- The schema. -/
  schemaText : String

namespace Encoder

/-- The encoder of a topic and a schema. -/
def ofTopic (topic schemaText : String) : Encoder := ⟨Topic.valueSubject topic, schemaText⟩

variable {σ : Type}

/-- **The message of an event.** -/
def encode (e : Encoder) (registry : Registry σ) (event : Json) :
    StateM σ (Except PublishError Bytes) := do
  match ← registry.register e.subject e.schemaText with
  | .error err => return .error (.registry err)
  | .ok id =>
    match ← registry.resolve id with
    | .error err => return .error (.registry err)
    | .ok codec =>
      match codec.binaryOfJson event with
      | .error err => return .error (PublishError.ofWireError err)
      | .ok payload => return .ok (Envelope.encode ⟨id, payload⟩)

/-- An event is encoded if the registry gives a number and a codec, and the
codec takes the event. -/
theorem encode_eq_ok {e : Encoder} {registry : Registry σ} {event : Json} {id : UInt32}
    {c : Avro.Codec} {payload : Bytes} {s s₁ s₂ : σ}
    (registered : registry.register e.subject e.schemaText s = (.ok id, s₁))
    (resolved : registry.resolve id s₁ = (.ok c, s₂))
    (written : c.binaryOfJson event = .ok payload) :
    e.encode registry event s = (.ok (Envelope.encode ⟨id, payload⟩), s₂) := by
  simp only [encode, bind, StateT.bind, registered, resolved, written]
  rfl

end Encoder

end CourierDispatch
