/-!
# Scripts

A service does its work by calls: to its store, to the bus, to the clock.
Between two calls of one piece of work those of others may take place, and
any call may fail. A script is that piece of work with its calls laid open:
either it is done, or it is about to make a call and says how it goes on for
every answer.

Running a script to its end is one thing that can be done with it. Making
its calls one at a time, with those of other scripts in between, is another,
and both read the same definition.
-/

namespace CourierDispatch

/-- **A script** whose calls are in `C`, with answers to a call `c` in `A c`,
and whose result is in `α`. -/
inductive Script (C : Type) (A : C → Type) (α : Type) where
  /-- Nothing is left to do. -/
  | done (a : α)
  /-- A call is due. -/
  | call (c : C) (next : A c → Script C A α)

namespace Script

variable {C : Type} {A : C → Type} {α β σ : Type}

/-- Goes on with another script when one is done. -/
def bind (s : Script C A α) (k : α → Script C A β) : Script C A β :=
  match s with
  | done a => k a
  | call c next => call c fun a => (next a).bind k

instance : Monad (Script C A) where
  pure := done
  bind := bind

/-- A script that makes one call. -/
def ask (c : C) : Script C A (A c) := call c done

/-- Runs a script to its end in a monad that answers its calls. -/
def perform {m : Type → Type} [Monad m] (answer : (c : C) → m (A c)) : Script C A α → m α
  | done a => pure a
  | call c next => answer c >>= fun a => (next a).perform answer

/-- **Runs a script to its end** against a state, without interruption. -/
def run (answer : (c : C) → σ → A c × σ) : Script C A α → σ → α × σ
  | done a, s => (a, s)
  | call c next, s =>
    let (a, s) := answer c s
    (next a).run answer s

/-- **Makes the next call** of a script; nothing is left to make when it is
done. -/
def step (answer : (c : C) → σ → A c × σ) : Script C A α → σ → Option (Script C A α × σ)
  | done _, _ => none
  | call c next, s =>
    let (a, s) := answer c s
    some (next a, s)

/-- **The calls that a script makes** when it is run to its end against a
state, first made first. -/
def calls (answer : (c : C) → σ → A c × σ) : Script C A α → σ → List C
  | done _, _ => []
  | call c next, s =>
    let (a, s) := answer c s
    c :: (next a).calls answer s

@[simp]
theorem done_bind (a : α) (k : α → Script C A β) : (done a).bind k = k a := rfl

@[simp]
theorem run_done (answer : (c : C) → σ → A c × σ) (a : α) (s : σ) :
    (done a : Script C A α).run answer s = (a, s) := rfl

theorem run_call (answer : (c : C) → σ → A c × σ) (c : C) (next : A c → Script C A α) (s : σ) :
    (call c next).run answer s = (next (answer c s).1).run answer (answer c s).2 := rfl

@[simp]
theorem calls_done (answer : (c : C) → σ → A c × σ) (a : α) (s : σ) :
    (done a : Script C A α).calls answer s = [] := rfl

theorem calls_call (answer : (c : C) → σ → A c × σ) (c : C) (next : A c → Script C A α) (s : σ) :
    (call c next).calls answer s = c :: (next (answer c s).1).calls answer (answer c s).2 := rfl

/-- Running two scripts in a row is running the second from where the first
ended. -/
theorem run_bind (answer : (c : C) → σ → A c × σ) (s : Script C A α) (k : α → Script C A β)
    (x : σ) :
    (s.bind k).run answer x = (k (s.run answer x).1).run answer (s.run answer x).2 := by
  induction s generalizing x with
  | done a => rfl
  | call c next ih => exact ih _ _

end Script

end CourierDispatch
