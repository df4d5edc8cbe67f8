import CourierDispatch.Script
import CourierDispatch.Table

/-!
# Scripts side by side

A workshop is a state with many scripts at work on it. Any of them may make
its next call at any time, so that between two calls of one script there may
be calls of all the others. Scripts that are done stay listed.

A call may have to wait: where the answer is none, the script stays where it
is and another one goes on.
-/

namespace CourierDispatch

/-- **Scripts at work on a state**, for pieces of work named in `τ`. -/
structure Workshop (τ C : Type) (A : C → Type) (α σ : Type) where
  /-- What the scripts work on. -/
  state : σ
  /-- The scripts as far as they have come, first begun first. -/
  works : Table τ (Script C A α) := Table.empty

namespace Workshop

variable {τ C : Type} {A : C → Type} {α σ : Type} [DecidableEq τ]

/-- A script is begun under a name of its own. -/
def begin? (task : τ) (work : Script C A α) (w : Workshop τ C A α σ) :
    Option (Workshop τ C A α σ) :=
  if w.works.contains task then none else some { w with works := w.works.put task work }

/-- The call that a script makes next. -/
def due? (task : τ) (w : Workshop τ C A α σ) : Option C :=
  match w.works.get? task with
  | some (.call c _) => some c
  | _ => none

/-- **A script makes its next call**, if there is an answer. -/
def advance? (answer : (c : C) → σ → Option (A c × σ)) (task : τ) (w : Workshop τ C A α σ) :
    Option (Workshop τ C A α σ) :=
  match w.works.get? task with
  | some (.call c next) =>
    (answer c w.state).map fun (a, state) => { state, works := w.works.put task (next a) }
  | _ => none

end Workshop

end CourierDispatch
