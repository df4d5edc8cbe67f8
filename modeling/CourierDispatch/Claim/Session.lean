import CourierDispatch.Claim.Rehearsal

/-!
# Sessions that are rehearsed

A session is told what to do from outside, one order after another. After
every order its tasks run until none can go on.
-/

namespace CourierDispatch.Claim

/-- **A session that is rehearsed.** -/
structure Session where
  /-- The claims. -/
  set : ClaimSet
  /-- What surrounds them. -/
  around : Rehearsal
  /-- The session was closed. -/
  closed : Bool := false

namespace Session

/-- A session at its start. -/
def start (buffer : Nat) (around : Rehearsal) : Session := ⟨.start buffer, around, false⟩

/-- Lets the tasks run until none can go on. -/
def settle (s : Session) : Session :=
  let (set, around) := ClaimSet.settle Rehearsal.surroundings (s.set, s.around)
  { s with set, around }

/-- **Hands out a message.** If there is no room for it even after the tasks
have run, the message is given up and there is no answer. -/
def dispatch (m : Fetched) (s : Session) : Option Bool × Session :=
  let (r, set) := s.set.dispatch m
  let s := settle { s with set }
  let (r, set) := match r with
    | some r => (some r, s.set)
    | none => s.set.settleOffer
  (r, settle { s with set := set.withdraw })

/-- Takes away partitions. -/
def revoke (keys : List PartitionKey) (s : Session) : Session :=
  settle { s with set := s.set.revoke keys }

/-- Cancels the session. -/
def cancel (s : Session) : Session := settle { s with set := s.set.cancel }

/-- Gives permits. -/
def permit (ids : List String) (s : Session) : Session :=
  settle { s with around := ids.foldl (fun r id => r.permit id) s.around }

/-- Reports the results that have not been reported. -/
def join (s : Session) : List (Except ConsumerError Unit) × Session :=
  let (results, set) := s.set.joinAll
  (results, { s with set })

/-- Closes the session. -/
def close (s : Session) : Session := settle { s with set := s.set.close, closed := true }

end Session

end CourierDispatch.Claim
