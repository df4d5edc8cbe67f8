import CourierDispatch.Claim.Process
import CourierDispatch.Table

/-!
# The claims of a session

While a consumer is member of a group it has claims on partitions. Each
claim is a task that works off the messages of its partition, which come to
it through a channel of bounded size. A claim is started by the first
message of its partition, and again by the next one after it has ended.

The set knows the claims that take messages; tasks whose partition was taken
away are no longer among them, but they finish the message they are at. So
the tasks are listed for themselves, in the order of their start, and the
set refers to them by their number.
-/

namespace CourierDispatch

/-- **A partition.** -/
structure PartitionKey where
  /-- The topic. -/
  topic : String
  /-- The number. -/
  number : Int
  deriving DecidableEq, Repr

/-- The partition of a message. -/
def Fetched.key (m : Fetched) : PartitionKey := ⟨m.topic, m.partition⟩

namespace Claim

/-- **What a task is at.** -/
inductive Phase where
  /-- Between two messages. -/
  | idle
  /-- At a message, with what is left to do. -/
  | busy (rest : Work (Except ConsumerError Unit))
  /-- At the end. -/
  | ended (result : Except ConsumerError Unit)

/-- The result of a phase that is the end. -/
def Phase.result? : Phase → Option (Except ConsumerError Unit)
  | ended r => some r
  | _ => none

/-- **A task.** -/
structure Task where
  /-- The partition. -/
  key : PartitionKey
  /-- The messages in its channel. -/
  queue : List Fetched := []
  /-- The partition was taken away. -/
  revoked : Bool := false
  /-- What it is at. -/
  phase : Phase := .idle
  /-- Its result was reported. -/
  joined : Bool := false

/-- Whether the task is at its end. -/
def Task.hasEnded (t : Task) : Bool := t.phase.result?.isSome

end Claim

/-- **The claims of a session.** -/
structure ClaimSet where
  /-- How many messages a channel holds. -/
  buffer : Nat
  /-- A channel holds a message at least. -/
  buffer_pos : 0 < buffer
  /-- The session was cancelled. -/
  cancelled : Bool := false
  /-- The claims that take messages, by partition. -/
  claims : Table PartitionKey Nat := Table.empty
  /-- All tasks, first started first. -/
  tasks : List Claim.Task := []
  /-- The message that waits for room in the channel of a task. -/
  offer : Option (Nat × Fetched) := none

namespace ClaimSet

/-- A session without claims; a buffer of no size counts as one. -/
def start (buffer : Nat) : ClaimSet :=
  ⟨max buffer 1, Nat.le_max_right _ _, false, Table.empty, [], none⟩

/-- Changes a task. -/
def modifyTask (n : Nat) (f : Claim.Task → Claim.Task) (s : ClaimSet) : ClaimSet :=
  { s with tasks := s.tasks.modify n f }

/-- Whether a task has been told to stop. -/
def isStopped (s : ClaimSet) (t : Claim.Task) : Bool := s.cancelled || t.revoked

/-- Whether a task has no more use for messages. -/
def isStale (s : ClaimSet) (n : Nat) : Bool :=
  match s.tasks[n]? with
  | some t => t.hasEnded || s.isStopped t
  | none => true

/-! ## Handing out messages -/

/-- The task that takes the messages of a partition, started if there is
none or if it has no more use for messages. -/
def claimFor (key : PartitionKey) (s : ClaimSet) : Nat × ClaimSet :=
  let fresh := s.tasks.length
  match s.claims.get? key with
  | some n =>
    if s.isStale n then
      (fresh, { s with
        claims := (s.claims.erase key).put key fresh
        tasks := s.tasks ++ [{ key := key }] })
    else (n, s)
  | none =>
    (fresh, { s with
      claims := s.claims.put key fresh
      tasks := s.tasks ++ [{ key := key }] })

/-- **Settles the message that waits for room**: it is refused if the session
was cancelled, lost if its task has ended, and put into the channel if there
is room. Otherwise it goes on waiting. The answer tells whether the session
goes on. -/
def settleOffer (s : ClaimSet) : Option Bool × ClaimSet :=
  match s.offer with
  | none => (none, s)
  | some (n, m) =>
    let settled := { s with offer := none }
    if s.cancelled then (some false, settled)
    else
      match s.tasks[n]? with
      | none => (some true, settled)
      | some t =>
        if t.hasEnded then (some true, settled)
        else if t.queue.length < s.buffer then
          (some true, settled.modifyTask n fun t => { t with queue := t.queue ++ [m] })
        else (none, s)

/-- **Hands out a message**, as far as that goes at once. -/
def dispatch (m : Fetched) (s : ClaimSet) : Option Bool × ClaimSet :=
  if s.cancelled then (some false, s)
  else
    let (n, s) := s.claimFor m.key
    settleOffer { s with offer := some (n, m) }

/-- Gives up the message that waits for room. -/
def withdraw (s : ClaimSet) : ClaimSet := { s with offer := none }

/-! ## Ending claims -/

/-- Takes away one partition. -/
def revokeOne (key : PartitionKey) (s : ClaimSet) : ClaimSet :=
  match s.claims.get? key with
  | some n =>
    modifyTask n (fun t => { t with revoked := true }) { s with claims := s.claims.erase key }
  | none => s

/-- **Takes away partitions**: their tasks finish the message they are at. -/
def revoke (keys : List PartitionKey) (s : ClaimSet) : ClaimSet :=
  keys.foldl (fun s key => s.revokeOne key) s

/-- **Cancels the session**: every task finishes the message it is at. -/
def cancel (s : ClaimSet) : ClaimSet := { s with cancelled := true }

/-- **Closes the session**: cancels it and gives up every claim. Closing returns
when it has taken the results of all tasks, which are all there when
`isIdle`. -/
def close (s : ClaimSet) : ClaimSet := { s.cancel with claims := Table.empty, offer := none }

/-- No task is left at work. -/
def isIdle (s : ClaimSet) : Bool := s.tasks.all (·.hasEnded)

/-- Reports the results that have not been reported. -/
def joinAll (s : ClaimSet) : List (Except ConsumerError Unit) × ClaimSet :=
  ((s.tasks.filter fun t => !t.joined).filterMap (·.phase.result?),
    { s with tasks := s.tasks.map fun t => { t with joined := t.joined || t.hasEnded } })

/-! ## Tasks at work -/

/-- What comes of a call at the moment. -/
inductive Reply (α : Type) where
  /-- The answer. -/
  | answer (a : α)
  /-- The answer is not there yet. -/
  | pending
  /-- The call broke down, and the task with it. -/
  | broken (reason : String)

/-- **The next move of a task**, when the call that it is at comes to
`reply`; none if it cannot go on. -/
def moveTask (stopped : Bool) (reply : (c : Claim.Call) → Reply (Claim.Answer c))
    (t : Claim.Task) : Option Claim.Task :=
  match t.phase with
  | .idle =>
    if stopped then some { t with phase := .ended (.ok ()) }
    else
      match t.queue with
      | [] => none
      | m :: rest => some { t with queue := rest, phase := .busy (Claim.process m) }
  | .busy (.done (.ok ())) => some { t with phase := .idle }
  | .busy (.done (.error e)) => some { t with phase := .ended (.error e) }
  | .busy (.call c next) =>
    match reply c with
    | .answer a => some { t with phase := .busy (next a) }
    | .pending => none
    | .broken reason => some { t with phase := .ended (.error (.claimAborted reason)) }
  | .ended _ => none

/-- The call that a task is at. -/
def callOf? (t : Claim.Task) : Option Claim.Call :=
  match t.phase with
  | .busy (.call c _) => some c
  | _ => none

end ClaimSet

end CourierDispatch
