import CourierDispatch.Bus.Decoder
import CourierDispatch.Script

/-!
# Working off a partition

The messages of a partition are worked off one after another. A message is
marked when it has been handled, or when there is nothing to handle: it has
no payload, or one that cannot be read and never will be. If the registry
cannot be asked or the handler fails, the work ends there and then, and the
message stays unmarked, so that it will be delivered again.

Marking may fail. Nothing is done about it: the message is delivered again,
which it may be anyway.
-/

namespace CourierDispatch

/-- **A message as it was fetched.** -/
structure Fetched where
  /-- The topic. -/
  topic : String
  /-- The number of the partition. -/
  partition : Int
  /-- Where in the partition the message stands. -/
  offset : Int
  /-- The bytes, if there are any. -/
  payload : Option Bytes
  deriving DecidableEq

/-- **Why a consumer stops.** -/
inductive ConsumerError where
  /-- The registry could not be asked. -/
  | registry (e : RegistryError)
  /-- The handler failed on the message at a place. -/
  | handler (topic : String) (partition offset : Int) (reason : String)
  /-- The handler broke down, and the task with it. -/
  | claimAborted (reason : String)
  /-- The consumer was closed before it began. -/
  | closed
  deriving DecidableEq

namespace ConsumerError

/-- The error of a handler that failed on a message. -/
def onMessage (m : Fetched) (reason : String) : ConsumerError :=
  .handler m.topic m.partition m.offset reason

/-- The wording of an error. -/
def message : ConsumerError → String
  | registry e => e.message
  | handler topic partition offset reason =>
    s!"handler failed for {topic}[{partition}]@{offset}: {reason}"
  | claimAborted reason => "claim task stopped: " ++ reason
  | closed => "consumer closed before joining the group"

end ConsumerError

namespace Claim

/-- **The calls of the work on a message.** -/
inductive Call where
  /-- Reads a payload. -/
  | decode (payload : Bytes)
  /-- Handles what was read. -/
  | handle (j : Json)
  /-- Marks a message. -/
  | mark (m : Fetched)

/-- What answers a call; a handler that fails gives its reason, and so does
marking. -/
abbrev Answer : Call → Type
  | .decode _ => Except DecodeError Json
  | .handle _ => Except String Unit
  | .mark _ => Except String Unit

/-- Work on messages: a script of its calls. -/
abbrev Work (α : Type) := Script Call Answer α

/-- The last step: the message is marked, or it is not. -/
def mark (m : Fetched) : Work (Except ConsumerError Unit) :=
  .call (.mark m) fun _ => .done (.ok ())

/-- What was read is handled. -/
def handle (m : Fetched) (j : Json) : Work (Except ConsumerError Unit) :=
  .call (.handle j) fun
  | .error reason => .done (.error (.onMessage m reason))
  | .ok () => mark m

/-- **Works off one message.** -/
def process (m : Fetched) : Work (Except ConsumerError Unit) :=
  match m.payload with
  | none => mark m
  | some payload =>
    .call (.decode payload) fun
    | .error (.registry e) => .done (.error (.registry e))
    | .error _ => mark m
    | .ok j => handle m j

/-- **Works off the messages of a channel** until one fails or the work is
stopped, which is only looked at between two messages. When there are none left
the work is at its end if the channel is closed; otherwise it waits, and has no
result. -/
def processAll {m : Type → Type} [Monad m] (answer : (c : Call) → m (Answer c))
    (stopped : m Bool) (closed : Bool) : List Fetched → m (Option (Except ConsumerError Unit))
  | [] => do
    if (← stopped) || closed then return some (.ok ()) else return none
  | msg :: rest => do
    if ← stopped then return some (.ok ())
    match ← (process msg).perform answer with
    | .error e => return some (.error e)
    | .ok () => processAll answer stopped closed rest

end Claim

end CourierDispatch
