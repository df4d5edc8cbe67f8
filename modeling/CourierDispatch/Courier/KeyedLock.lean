import CourierDispatch.Table

/-!
# Locks by key

Work on one key is done by one task at a time, and work on different keys
side by side. Behind each key that is in use stands a mutex, which a table
finds; a key that nobody uses has no entry.

A task asks for a key and is given the mutex of the key, a new one if there
is none. It acquires the mutex when nobody holds it; which of those who wait
comes first is left open here, since tasks that have the mutex in hand take
their places in its queue in any order. To leave, it releases the mutex, then drops its
reference to it, and then takes the entry of the key out of the table if
nobody refers to the mutex there. These are steps of their own, and those of
other tasks may come between them. A task that is cancelled while it waits
drops its reference and looks after nothing.
-/

namespace CourierDispatch

/-- **How far a task has come with a key.** -/
inductive LockStage where
  /-- It has the mutex in hand and waits for it to be free. -/
  | waiting
  /-- It holds the mutex. -/
  | holding
  /-- It has released the mutex and still refers to it. -/
  | released
  /-- It refers to the mutex no more; the entry remains to be looked at. -/
  | dropped
  deriving DecidableEq, Repr

/-- **A task's dealings with a key.** -/
structure LockVisit (κ : Type) where
  /-- The key. -/
  key : κ
  /-- The mutex that stood for the key when the task asked. -/
  mutex : Nat
  /-- How far the task has come. -/
  stage : LockStage := .waiting
  deriving DecidableEq, Repr

/-- Whether the task refers to its mutex. -/
def LockVisit.refers {κ : Type} (v : LockVisit κ) : Bool := v.stage ≠ .dropped

/-- **Locks by key**, for tasks in `τ` and keys in `κ`. -/
structure KeyedLock (κ τ : Type) where
  /-- The mutexes by key. -/
  mutexes : Table κ Nat := Table.empty
  /-- The tasks at work, first asked first. -/
  visits : Table τ (LockVisit κ) := Table.empty
  /-- How many mutexes have been made. -/
  made : Nat := 0

namespace KeyedLock

variable {κ τ : Type} [DecidableEq κ] [DecidableEq τ]

/-- The table without keys. -/
def empty : KeyedLock κ τ := {}

/-- **The steps of tasks.** -/
inductive Event (κ τ : Type) where
  /-- A task asks for a key. -/
  | ask (task : τ) (key : κ)
  /-- It acquires the mutex. -/
  | acquire (task : τ)
  /-- It is cancelled while it waits. -/
  | cancel (task : τ)
  /-- It releases the mutex. -/
  | release (task : τ)
  /-- It drops its reference to the mutex. -/
  | drop (task : τ)
  /-- It looks after the entry, and is done. -/
  | sweep (task : τ)
  deriving DecidableEq, Repr

/-- Whether a task holds a mutex. -/
def isHeld (mutex : Nat) (l : KeyedLock κ τ) : Bool :=
  l.visits.values.any fun v => v.mutex = mutex && v.stage = .holding

/-- Whether a task refers to a mutex. -/
def isReferredTo (mutex : Nat) (l : KeyedLock κ τ) : Bool :=
  l.visits.values.any fun v => v.mutex = mutex && v.refers

/-- A task without dealings takes the mutex of a key in hand. -/
def ask (task : τ) (key : κ) (l : KeyedLock κ τ) : KeyedLock κ τ :=
  match l.mutexes.get? key with
  | some mutex => { l with visits := l.visits.put task { key, mutex } }
  | none =>
    { mutexes := l.mutexes.put key l.made
      visits := l.visits.put task { key, mutex := l.made }
      made := l.made + 1 }

/-- A task moves on to a stage. -/
def moveTo (stage : LockStage) (task : τ) (v : LockVisit κ) (l : KeyedLock κ τ) :
    KeyedLock κ τ :=
  { l with visits := l.visits.put task { v with stage } }

/-- A task has no more dealings with its key. -/
def forget (task : τ) (l : KeyedLock κ τ) : KeyedLock κ τ :=
  { l with visits := l.visits.erase task }

/-- The entry of a key goes if nobody refers to its mutex. -/
def sweepKey (key : κ) (l : KeyedLock κ τ) : KeyedLock κ τ :=
  match l.mutexes.get? key with
  | some mutex =>
    if l.isReferredTo mutex then l else { l with mutexes := l.mutexes.erase key }
  | none => l

/-- **One step of a task**; none if the task is not where it could take it. -/
def step? : Event κ τ → KeyedLock κ τ → Option (KeyedLock κ τ)
  | .ask task key, l => if l.visits.contains task then none else some (l.ask task key)
  | .acquire task, l =>
    match l.visits.get? task with
    | some v =>
      if v.stage = .waiting ∧ l.isHeld v.mutex = false then some (l.moveTo .holding task v)
      else none
    | none => none
  | .cancel task, l =>
    match l.visits.get? task with
    | some v => if v.stage = .waiting then some (l.forget task) else none
    | none => none
  | .release task, l =>
    match l.visits.get? task with
    | some v => if v.stage = .holding then some (l.moveTo .released task v) else none
    | none => none
  | .drop task, l =>
    match l.visits.get? task with
    | some v => if v.stage = .released then some (l.moveTo .dropped task v) else none
    | none => none
  | .sweep task, l =>
    match l.visits.get? task with
    | some v => if v.stage = .dropped then some ((l.forget task).sweepKey v.key) else none
    | none => none

/-- Takes steps one after another; those that cannot be taken are passed
over. -/
def run (events : List (Event κ τ)) (l : KeyedLock κ τ) : KeyedLock κ τ :=
  events.foldl (fun l e => (l.step? e).getD l) l

/-- A task that holds its key leaves, without a pause between its steps. -/
def leave (task : τ) (l : KeyedLock κ τ) : KeyedLock κ τ :=
  l.run [.release task, .drop task, .sweep task]

/-- The tasks at a stage with their keys, first asked first. -/
def tasksAt (stage : LockStage) (l : KeyedLock κ τ) : List (τ × κ) :=
  (l.visits.entries.filter fun e => e.2.stage = stage).map fun (task, v) => (task, v.key)

/-- The number of keys that have an entry. -/
def size (l : KeyedLock κ τ) : Nat := l.mutexes.size

end KeyedLock

end CourierDispatch
