import CourierDispatch.Claim.Set

/-!
# Running the claims of a session

The tasks of a session take turns. Here they do so in the simplest way that
is fair: each runs until it cannot go on, in the order of their start, and
from the beginning again until none can. What the tasks' calls come to, and
when the session is cancelled from within a handler, is up to what surrounds
the session.
-/

namespace CourierDispatch.ClaimSet

/-- **What surrounds a session**, with states in `ρ`. -/
structure Surroundings (ρ : Type) where
  /-- What the call of a task comes to. -/
  reply : Nat → (c : Claim.Call) → ρ → Reply (Claim.Answer c) × ρ
  /-- Whether the session is to be cancelled. -/
  cancels : ρ → Bool

variable {ρ : Type}

/-- Cancels the session if it is to be cancelled. -/
def heed (env : Surroundings ρ) (s : ClaimSet × ρ) : ClaimSet × ρ :=
  if env.cancels s.2 then (s.1.cancel, s.2) else s

/-- **One move of a task**; none if it cannot go on. What surrounds the
session may have changed even then. -/
def advance (env : Surroundings ρ) (n : Nat) (s : ClaimSet × ρ) : Bool × ClaimSet × ρ :=
  match s.1.tasks[n]? with
  | none => (false, s)
  | some t =>
    match t.phase with
    | .busy (.call c next) =>
      match env.reply n c s.2 with
      | (.answer a, r) =>
        (true, heed env
          (s.1.modifyTask n fun t => { t with phase := .busy (next a) }, r))
      | (.pending, r) => (false, heed env (s.1, r))
      | (.broken reason, r) =>
        (true, heed env
          (s.1.modifyTask n fun t =>
            { t with phase := .ended (.error (.claimAborted reason)) }, r))
    | _ =>
      match moveTask (s.1.isStopped t) (fun _ => .pending) t with
      | some t => (true, s.1.modifyTask n fun _ => t, s.2)
      | none => (false, s)

/-- Runs a task until it cannot go on, for `fuel` moves at most. -/
def runTask (env : Surroundings ρ) (n : Nat) : Nat → ClaimSet × ρ → Bool × ClaimSet × ρ
  | 0, s => (false, s)
  | fuel + 1, s =>
    match advance env n s with
    | (true, s) => (true, (runTask env n fuel s).2)
    | (false, s) => (false, s)

/-- More moves than the tasks can make without new messages: six for a
message and for what each task is at. -/
def movesLeft (s : ClaimSet) : Nat :=
  6 * (s.tasks.foldl (fun n t => n + t.queue.length + 1) 1)

/-- Lets every task run until it cannot go on. -/
def round (env : Surroundings ρ) (s : ClaimSet × ρ) : Bool × ClaimSet × ρ :=
  (List.range s.1.tasks.length).foldl
    (fun (moved, s) n =>
      let (m, s) := runTask env n s.1.movesLeft s
      (moved || m, s))
    (false, s)

/-- Runs rounds until no task can go on, at most `fuel`. -/
def rounds (env : Surroundings ρ) : Nat → ClaimSet × ρ → ClaimSet × ρ
  | 0, s => s
  | fuel + 1, s =>
    match round env s with
    | (true, s) => rounds env fuel s
    | (false, s) => s

/-- **Runs the tasks until none can go on.** -/
def settle (env : Surroundings ρ) (s : ClaimSet × ρ) : ClaimSet × ρ :=
  rounds env s.1.movesLeft s

end CourierDispatch.ClaimSet
