/-!
# The pool of workers that save reports

Producers hand in reports, which go through a queue of bounded size to
workers that save them. While the queue is full producers wait. When the
pool is closing nobody waits any longer: reports that are handed in are
refused, and the workers go on until the queue is empty.

Shutting down closes the queue and waits for the workers, but not for ever:
when the time for that is over, those that are still at work are stopped,
each with the report it has in hand. What is in the queue then is left.

Producers, workers and the one who shuts down are independent of each
other. A step is what one of them does at once. When the last producer has
gone and the queue is empty, the workers end without being told to.
-/

namespace CourierDispatch

/-- **What a worker is at**, for reports in `ρ`. -/
inductive SaverStage (ρ : Type) where
  /-- It waits for a report. -/
  | idle
  /-- It has seen that the pool is closing, and empties the queue. -/
  | draining
  /-- It saves a report, and drains the queue after it or waits again. -/
  | saving (draining : Bool) (r : ρ)
  /-- It has ended. -/
  | ended
  deriving DecidableEq, Repr

namespace SaverStage

variable {ρ : Type}

/-- The report in hand. -/
def inHand : SaverStage ρ → List ρ
  | saving _ r => [r]
  | _ => []

/-- Whether the worker has ended. -/
def isEnded : SaverStage ρ → Bool
  | ended => true
  | _ => false

/-- What comes after a report has been saved. -/
def next (draining : Bool) : SaverStage ρ := if draining then .draining else .idle

end SaverStage

/-- **What shutting down has led to.** -/
structure ShutdownReport where
  /-- How many reports were left in the queue. -/
  residual : Nat
  /-- Whether the workers had to be stopped. -/
  timedOut : Bool
  deriving DecidableEq, Repr

/-- **How far shutting down has come.** -/
inductive ShutdownStage where
  /-- Nobody has asked for it. -/
  | unasked
  /-- The pool is closing; the queue is about to be closed. -/
  | closing
  /-- The workers are waited for. -/
  | waiting
  /-- The time is over and the workers are stopped. -/
  | stopping
  /-- It is over. -/
  | over (report : ShutdownReport)
  deriving DecidableEq, Repr

/-- **A pool of workers** for reports in `ρ`. -/
structure ReportPool (ρ : Type) where
  /-- How many reports the queue holds. -/
  capacity : Nat
  /-- The queue holds a report at least. -/
  capacity_pos : 0 < capacity
  /-- The workers. -/
  workers : List (SaverStage ρ)
  /-- The pool is closing. -/
  closing : Bool := false
  /-- Nobody is left who could hand in a report. -/
  producersGone : Bool := false
  /-- How far shutting down has come. -/
  shutdown : ShutdownStage := .unasked
  /-- The reports whose producers wait, first come first. -/
  waiting : List ρ := []
  /-- The reports in the queue. -/
  queue : List ρ := []
  /-- The reports that were refused. -/
  refused : List ρ := []
  /-- The reports that were let into the queue. -/
  accepted : List ρ := []
  /-- The reports that were saved, or whose saving failed. -/
  completed : List ρ := []
  /-- The reports whose saving failed. -/
  failed : List ρ := []
  /-- The reports with which a worker was stopped. -/
  aborted : List ρ := []
  /-- The reports on which a worker broke down. -/
  lost : List ρ := []
  /-- The reports that were left in the queue. -/
  left : List ρ := []

namespace ReportPool

variable {ρ : Type}

/-- **A pool at its start**: at least one worker, and room for at least one
report. -/
def start (workers capacity : Nat) : ReportPool ρ where
  capacity := max capacity 1
  capacity_pos := by omega
  workers := List.replicate (max workers 1) .idle

/-- Whether the queue is closed. -/
def isClosed (p : ReportPool ρ) : Bool :=
  match p.shutdown with
  | .unasked => false
  | .closing => false
  | _ => true

/-- Whether every worker has ended. -/
def allEnded (p : ReportPool ρ) : Bool := p.workers.all (·.isEnded)

/-- Sets what a worker is at. -/
def setWorker (w : Nat) (stage : SaverStage ρ) (p : ReportPool ρ) : ReportPool ρ :=
  { p with workers := p.workers.set w stage }

/-- **The steps.** -/
inductive Event (ρ : Type) where
  /-- A report is handed in. -/
  | submit (r : ρ)
  /-- A producer that waits gets its report into the queue. -/
  | enter (producer : Nat)
  /-- A producer that waits is sent away. -/
  | refuse (producer : Nat)
  /-- A worker takes the first report of the queue. -/
  | take (worker : Nat)
  /-- A worker sees that the pool is closing. -/
  | notice (worker : Nat)
  /-- The saving of a worker's report comes to its end: it worked, or it
  failed. -/
  | complete (worker : Nat) (saved : Bool)
  /-- A worker breaks down on its report. -/
  | breakDown (worker : Nat)
  /-- A worker ends, since the queue is empty. -/
  | retire (worker : Nat)
  /-- The last producer goes away. -/
  | leave
  /-- The pool is told to close. -/
  | cancel
  /-- The pool is told to shut down. -/
  | shutDown
  /-- The queue is closed. -/
  | closeQueue
  /-- The time for the workers is over. -/
  | timeOut
  /-- A worker is stopped. -/
  | abort (worker : Nat)
  /-- The workers have ended, and what is left is counted. -/
  | conclude
  deriving DecidableEq, Repr

/-- A report is handed in, if there is anybody to do so: refused at once if
the pool is closing. -/
def submit? (r : ρ) (p : ReportPool ρ) : Option (ReportPool ρ) :=
  if p.producersGone then none
  else if p.closing then some { p with refused := p.refused ++ [r] }
  else some { p with waiting := p.waiting ++ [r] }

/-- A producer that waits gets its report into the queue if there is
room. -/
def enter? (n : Nat) (p : ReportPool ρ) : Option (ReportPool ρ) :=
  match p.waiting[n]? with
  | some r =>
    if p.isClosed = false ∧ p.queue.length < p.capacity then
      some { p with
        waiting := p.waiting.eraseIdx n
        queue := p.queue ++ [r]
        accepted := p.accepted ++ [r] }
    else none
  | none => none

/-- A producer that waits is sent away if the pool is closing. -/
def refuse? (n : Nat) (p : ReportPool ρ) : Option (ReportPool ρ) :=
  match p.waiting[n]? with
  | some r =>
    if p.closing then
      some { p with waiting := p.waiting.eraseIdx n, refused := p.refused ++ [r] }
    else none
  | none => none

/-- A worker without a report takes the first of the queue. -/
def take? (w : Nat) (p : ReportPool ρ) : Option (ReportPool ρ) :=
  match p.workers[w]?, p.queue with
  | some .idle, r :: rest => some ({ p with queue := rest }.setWorker w (.saving false r))
  | some .draining, r :: rest => some ({ p with queue := rest }.setWorker w (.saving true r))
  | _, _ => none

/-- A worker that waits for a report sees that the pool is closing, or that
no report will come any more. -/
def notice? (w : Nat) (p : ReportPool ρ) : Option (ReportPool ρ) :=
  match p.workers[w]? with
  | some .idle =>
    if p.closing || (p.producersGone && p.queue.isEmpty) then some (p.setWorker w .draining)
    else none
  | _ => none

/-- The saving of a worker's report comes to its end. That it failed is noted
and nothing else: the worker goes on. -/
def complete? (w : Nat) (saved : Bool) (p : ReportPool ρ) : Option (ReportPool ρ) :=
  match p.workers[w]? with
  | some (.saving draining r) =>
    some ({ p with
      completed := p.completed ++ [r]
      failed := if saved then p.failed else p.failed ++ [r] }.setWorker w (.next draining))
  | _ => none

/-- A worker breaks down on its report, which is lost with it. -/
def breakDown? (w : Nat) (p : ReportPool ρ) : Option (ReportPool ρ) :=
  match p.workers[w]? with
  | some (.saving _ r) => some ({ p with lost := p.lost ++ [r] }.setWorker w .ended)
  | _ => none

/-- A worker that drains the queue ends when it is empty. -/
def retire? (w : Nat) (p : ReportPool ρ) : Option (ReportPool ρ) :=
  match p.workers[w]?, p.queue with
  | some .draining, [] => some (p.setWorker w .ended)
  | _, _ => none

/-- The last producer goes away, which it does not while it waits. -/
def leave? (p : ReportPool ρ) : Option (ReportPool ρ) :=
  if p.waiting.isEmpty then some { p with producersGone := true } else none

/-- A worker is stopped, with the report in its hand if it has one. -/
def abort? (w : Nat) (p : ReportPool ρ) : Option (ReportPool ρ) :=
  match p.shutdown, p.workers[w]? with
  | .stopping, some stage =>
    if stage.isEnded then none
    else some ({ p with aborted := p.aborted ++ stage.inHand }.setWorker w .ended)
  | _, _ => none

/-- Shutting down is over, with so much left. -/
def concludeWith (timedOut : Bool) (p : ReportPool ρ) : ReportPool ρ :=
  { p with
    shutdown := .over ⟨p.queue.length, timedOut⟩
    queue := []
    left := p.queue }

/-- The workers have ended. -/
def conclude? (p : ReportPool ρ) : Option (ReportPool ρ) :=
  match p.shutdown with
  | .waiting => if p.allEnded then some (p.concludeWith false) else none
  | .stopping => if p.allEnded then some (p.concludeWith true) else none
  | _ => none

/-- **One step**; none if it cannot be taken. -/
def step? : Event ρ → ReportPool ρ → Option (ReportPool ρ)
  | .submit r, p => p.submit? r
  | .enter n, p => p.enter? n
  | .refuse n, p => p.refuse? n
  | .take w, p => p.take? w
  | .notice w, p => p.notice? w
  | .complete w saved, p => p.complete? w saved
  | .breakDown w, p => p.breakDown? w
  | .retire w, p => p.retire? w
  | .leave, p => p.leave?
  | .cancel, p => some { p with closing := true }
  | .shutDown, p =>
    if p.shutdown = .unasked then some { p with closing := true, shutdown := .closing } else none
  | .closeQueue, p => if p.shutdown = .closing then some { p with shutdown := .waiting } else none
  | .timeOut, p => if p.shutdown = .waiting then some { p with shutdown := .stopping } else none
  | .abort w, p => p.abort? w
  | .conclude, p => p.conclude?

/-- Takes steps one after another; those that cannot be taken are passed
over. -/
def run (events : List (Event ρ)) (p : ReportPool ρ) : ReportPool ρ :=
  events.foldl (fun p e => (p.step? e).getD p) p

/-- The report of a shutdown that is over. -/
def report? (p : ReportPool ρ) : Option ShutdownReport :=
  match p.shutdown with
  | .over report => some report
  | _ => none

end ReportPool

end CourierDispatch
