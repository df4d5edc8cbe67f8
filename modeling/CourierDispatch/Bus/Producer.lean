import CourierDispatch.Bus.Encoder

/-!
# Sending messages

A producer takes a message into its queue at once or refuses it; what
becomes of it later is nobody's concern. The only refusal is of messages
that are too large for the bus.
-/

namespace CourierDispatch

/-- **A message on its way.** -/
structure Outgoing where
  /-- The topic. -/
  topic : String
  /-- The key, which decides on the partition. -/
  key : String
  /-- The bytes. -/
  payload : Bytes
  deriving DecidableEq

namespace Outgoing

/-- The largest message of the bus. -/
def sizeLimit : Nat := 1000000

/-- What a message may take on the bus besides its key and payload. -/
def overhead : Nat := 36

/-- Whether the bus takes a message of this size. -/
def isTooLarge (m : Outgoing) : Bool :=
  sizeLimit < overhead + m.key.utf8ByteSize + m.payload.length

/-- Why a message is refused for its size. -/
def tooLarge : String :=
  "Message production error: MessageSizeTooLarge (Broker: Message size too large)"

end Outgoing

namespace Encoder

variable {σ : Type}

/-- **Publishes an event** to a topic under a key. -/
def publish (e : Encoder) (registry : Registry σ) (topic key : String) (event : Json) :
    StateM σ (Except PublishError Outgoing) := do
  match ← e.encode registry event with
  | .error err => return .error err
  | .ok payload =>
    let m : Outgoing := ⟨topic, key, payload⟩
    if m.isTooLarge then return .error (.enqueue topic Outgoing.tooLarge)
    else return .ok m

end Encoder

end CourierDispatch
