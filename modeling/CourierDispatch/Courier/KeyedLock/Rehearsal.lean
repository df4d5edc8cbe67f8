import CourierDispatch.Courier.KeyedLock

/-!
# Rehearsals of locks

A rehearsal has tasks with names that ask for a key each, hold it for as
long as they are told to, and leave. After every order they are given they
all go on until none can. Those who wait for one key are served in the order
in which they asked.
-/

namespace CourierDispatch

/-- **A rehearsal of locks.** -/
structure LockRehearsal where
  /-- The locks. -/
  lock : KeyedLock String String := .empty
  /-- The tasks that have been told to leave. -/
  leaving : List String := []
  /-- The tasks that have held their key, in order. -/
  acquired : List String := []

namespace LockRehearsal

/-- The task that has waited longest for a mutex. -/
def nextOf? (mutex : Nat) (r : LockRehearsal) : Option String :=
  (r.lock.visits.entries.find? fun e => e.2.mutex = mutex && e.2.stage = .waiting).map Prod.fst

/-- Whether nobody who asked before a task still waits for its mutex. -/
def isNext (task : String) (r : LockRehearsal) : Bool :=
  match r.lock.visits.get? task with
  | some v => r.nextOf? v.mutex = some task
  | none => false

/-- Lets a task go on, if it can. -/
def proceed (r : LockRehearsal) (task : String) : LockRehearsal :=
  let r := match if r.isNext task then r.lock.step? (.acquire task) else none with
    | some lock => { r with lock, acquired := r.acquired ++ [task] }
    | none => r
  if r.leaving.contains task then { r with lock := r.lock.leave task } else r

/-- Lets every task go on, so many times. -/
def rounds : Nat → LockRehearsal → LockRehearsal
  | 0, r => r
  | n + 1, r => rounds n (r.lock.visits.keys.foldl proceed r)

/-- Lets the tasks go on until none can: each round takes at least one task
further if any can go on, and a task has two ways to go. -/
def settle (r : LockRehearsal) : LockRehearsal := rounds (2 * r.lock.visits.size) r

/-- A task asks for a key; one that is at work already does not. -/
def ask (task key : String) (r : LockRehearsal) : LockRehearsal :=
  match r.lock.step? (.ask task key) with
  | some lock => settle { r with lock, leaving := r.leaving.filter (· ≠ task) }
  | none => r

/-- A task is told to leave; one that waits leaves as soon as it has its
key. -/
def release (task : String) (r : LockRehearsal) : LockRehearsal :=
  if r.lock.visits.contains task then settle { r with leaving := r.leaving ++ [task] } else r

/-- A task is stopped, whether it holds its key or waits for it. -/
def abort (task : String) (r : LockRehearsal) : LockRehearsal :=
  settle { r with lock := (r.lock.run [.cancel task]).leave task }

end LockRehearsal

end CourierDispatch
