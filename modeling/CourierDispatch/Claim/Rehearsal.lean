import CourierDispatch.Claim.Run

/-!
# Rehearsals

A rehearsal runs claims with a handler that acts by a plan: messages carry
an identifier, and for each identifier the plan says what the handler does
with its messages. Everything that happens is noted in order.

A handler that waits goes on with a permit for its identifier; those that
wait for the same identifier are served first come, first served.
-/

namespace CourierDispatch.Claim

/-- **What the handler does with a message.** -/
inductive Conduct where
  /-- It handles the message. -/
  | succeed
  /-- It fails for a reason, a number of times or every time. -/
  | fail (reason : String) (times : Option Nat)
  /-- It waits for a permit. -/
  | wait
  /-- It breaks down for a reason. -/
  | breakDown (reason : String)
  /-- It cancels the session, and handles the message. -/
  | cancel

/-- **A rehearsal**: the plan, and what has happened. -/
structure Rehearsal where
  /-- How payloads are read. -/
  reader : Bytes → Except DecodeError Json
  /-- What the handler does, by identifier. -/
  conduct : String → Conduct
  /-- Whether marking an offset fails. -/
  markFails : Int → Bool
  /-- The identifiers for which the handler has failed. -/
  failed : List String := []
  /-- The permits that are left. -/
  permits : List String := []
  /-- The tasks that wait, with the identifiers of their messages. -/
  waiting : List (Nat × String) := []
  /-- The identifiers of the messages that were begun. -/
  started : List String := []
  /-- The identifiers of the messages that were handled. -/
  finished : List String := []
  /-- What the handler was given. -/
  values : List Json := []
  /-- The messages that were marked. -/
  marked : List Fetched := []
  /-- The session is to be cancelled. -/
  cancelled : Bool := false

namespace Rehearsal

/-- The identifier of a message. -/
def idOf (j : Json) : String :=
  (((j.get? "payload").bind (·.get? "order_id")).bind (·.string?)).getD "?"

/-- A message has been handled. -/
def finish (id : String) (r : Rehearsal) : ClaimSet.Reply (Except String Unit) × Rehearsal :=
  (.answer (.ok ()), { r with finished := r.finished ++ [id] })

/-- A task waits for a permit, and goes on if there is one and it is its
turn. -/
def awaitPermit (n : Nat) (id : String) (r : Rehearsal) :
    ClaimSet.Reply (Except String Unit) × Rehearsal :=
  let isNext := (r.waiting.find? fun w => w.2 = id).any fun w => w.1 = n
  if isNext && r.permits.contains id then
    finish id { r with
      permits := r.permits.erase id
      waiting := r.waiting.filter fun w => w.1 ≠ n }
  else (.pending, r)

/-- The handler begins with a message, or goes on with the one for which it
waits. -/
def handle (n : Nat) (j : Json) (r : Rehearsal) :
    ClaimSet.Reply (Except String Unit) × Rehearsal :=
  let id := idOf j
  if r.waiting.any fun w => w.1 = n then awaitPermit n id r
  else
    let r := { r with started := r.started ++ [id], values := r.values ++ [j] }
    match r.conduct id with
    | .succeed => finish id r
    | .fail reason times =>
      if times.any fun limit => limit ≤ r.failed.count id then finish id r
      else (.answer (.error reason), { r with failed := id :: r.failed })
    | .wait => awaitPermit n id { r with waiting := r.waiting ++ [(n, id)] }
    | .breakDown reason => (.broken reason, r)
    | .cancel => finish id { r with cancelled := true }

/-- What the call of a task comes to. -/
def reply (n : Nat) : (c : Call) → Rehearsal → ClaimSet.Reply (Answer c) × Rehearsal
  | .decode payload, r => (.answer (r.reader payload), r)
  | .mark m, r =>
    if r.markFails m.offset then (.answer (.error "offset not stored"), r)
    else (.answer (.ok ()), { r with marked := r.marked ++ [m] })
  | .handle j, r => handle n j r

/-- What surrounds a session that is rehearsed. -/
def surroundings : ClaimSet.Surroundings Rehearsal := ⟨reply, (·.cancelled)⟩

/-- Gives a permit. -/
def permit (id : String) (r : Rehearsal) : Rehearsal := { r with permits := r.permits ++ [id] }

/-- **Rehearses the work on messages** of a closed channel without a session;
none if the handler breaks down or waits. -/
def processAll (messages : List Fetched) (r : Rehearsal) :
    Option (Except ConsumerError Unit) × Rehearsal :=
  let answer (c : Call) : OptionT (StateM Rehearsal) (Answer c) := do
    let (a, r) := reply 0 c (← get)
    set r
    match a with
    | .answer a => return a
    | _ => failure
  let stopped : OptionT (StateM Rehearsal) Bool := return (← get).cancelled
  let (result, r) := (Claim.processAll answer stopped true messages).run r
  (result.join, r)

end Rehearsal

end CourierDispatch.Claim
