import CourierDispatch.Location.Pool

/-!
# Rehearsals of the pool

A rehearsal runs the pool on a clock that is set by hand, with reports that
are numbers and a plan for what becomes of them. Producers, workers and the
one who shuts down go on at once whenever they can; only missing permits
and the clock hold them up.

A span of time that is waited for ends with the first tick of the clock that
is certainly later, which is one more than the span. Spans that end with the
same tick end in the order in which they began.
-/

namespace CourierDispatch

/-- **What becomes of reports.** -/
structure PoolPlan where
  /-- Saving takes a permit. -/
  needsPermit : Bool
  /-- How long saving takes. -/
  saveTime : Nat
  /-- Whether the saving of a report fails. -/
  fails : Nat → Bool
  /-- Whether a worker breaks down on a report. -/
  breaks : Nat → Bool
  /-- How long the workers are waited for. -/
  drainTime : Nat

/-- **A rehearsal of the pool.** -/
structure PoolRehearsal where
  /-- The plan. -/
  plan : PoolPlan
  /-- The pool. -/
  pool : ReportPool Nat
  /-- The clock. -/
  clock : Nat := 0
  /-- The permits that are left. -/
  permits : Nat := 0
  /-- The workers that wait for a permit, first come first. -/
  line : List Nat := []
  /-- The ends of the spans that are waited for, by a worker or, if none is
  named, by the one who shuts down; first begun first. -/
  alarms : List (Nat × Option Nat) := []
  /-- The reports whose saving has begun. -/
  started : List Nat := []
  /-- The reports that were saved. -/
  saved : List Nat := []
  /-- Shutting down was waited for. -/
  awaited : Bool := false

namespace PoolRehearsal

/-- A rehearsal at its start. -/
def start (plan : PoolPlan) (workers capacity : Nat) : PoolRehearsal :=
  { plan, pool := .start workers capacity }

/-- Takes a step of the pool; none if it cannot be taken. -/
def step? (e : ReportPool.Event Nat) (r : PoolRehearsal) : Option PoolRehearsal :=
  (r.pool.step? e).map fun pool => { r with pool }

/-- Takes a step of the pool if it can be taken. -/
def step (e : ReportPool.Event Nat) (r : PoolRehearsal) : PoolRehearsal := (r.step? e).getD r

/-- Sets an alarm. -/
def setAlarm (span : Nat) (who : Option Nat) (r : PoolRehearsal) : PoolRehearsal :=
  { r with alarms := r.alarms ++ [(r.clock + span + 1, who)] }

/-! ## Saving a report -/

/-- A worker's saving comes to its end. -/
def finish (w : Nat) (r : PoolRehearsal) : PoolRehearsal :=
  match r.pool.workers[w]? with
  | some (.saving _ n) =>
    if r.plan.breaks n then r.step (.breakDown w)
    else if r.plan.fails n then r.step (.complete w false)
    else { r.step (.complete w true) with saved := r.saved ++ [n] }
  | _ => r

/-- A worker has its permit. -/
def pass (w : Nat) (r : PoolRehearsal) : PoolRehearsal :=
  if r.plan.saveTime = 0 then r.finish w else r.setAlarm r.plan.saveTime (some w)

/-- A worker that has taken a report begins to save it. -/
def begin (w : Nat) (r : PoolRehearsal) : PoolRehearsal :=
  match r.pool.workers[w]? with
  | some (.saving _ n) =>
    let r := { r with started := r.started ++ [n] }
    if r.plan.needsPermit then { r with line := r.line ++ [w] } else r.pass w
  | _ => r

/-! ## Going on -/

/-- The worker that has waited longest for a permit goes on. -/
def grant? (r : PoolRehearsal) : Option PoolRehearsal :=
  match r.line, r.permits with
  | w :: rest, n + 1 => some ({ r with line := rest, permits := n }.pass w)
  | _, _ => none

/-- A worker without a report goes on. -/
def goOn? (w : Nat) (r : PoolRehearsal) : Option PoolRehearsal :=
  ((r.step? (.take w)).map (begin w)) <|> r.step? (.notice w) <|> r.step? (.retire w)

/-- The queue is closed, and the time for the workers begins. -/
def closeQueue? (r : PoolRehearsal) : Option PoolRehearsal :=
  (r.step? .closeQueue).map fun r => r.setAlarm r.plan.drainTime none

/-- **The next thing that can happen at once**, if there is one: workers go
on before the one who shuts down. -/
def next? (r : PoolRehearsal) : Option PoolRehearsal :=
  r.grant? <|> r.step? (.refuse 0) <|> r.step? (.enter 0) <|>
    (List.range r.pool.workers.length).findSome? (fun w => r.goOn? w) <|>
    r.closeQueue? <|> r.step? .conclude

/-- Lets things happen, at most so many. -/
def goOn : Nat → PoolRehearsal → PoolRehearsal
  | 0, r => r
  | n + 1, r =>
    match r.next? with
    | some r => goOn n r
    | none => r

/-- **Lets everything happen that can happen at once**: five things for each
report and four for each worker at most, and two at the shutdown. -/
def settle (r : PoolRehearsal) : PoolRehearsal :=
  goOn (5 * (r.pool.waiting.length + r.pool.queue.length + r.pool.workers.length) +
    4 * r.pool.workers.length + 2) r

/-! ## The clock -/

/-- The time for the workers is over: those that are at work are stopped. -/
def timeOut (r : PoolRehearsal) : PoolRehearsal :=
  match r.step? .timeOut with
  | some r =>
    let r := (List.range r.pool.workers.length).foldl (fun r w => r.step (.abort w)) r
    { r with line := [], alarms := [] }
  | none => r

/-- An alarm goes off. -/
def ring (r : PoolRehearsal) (who : Option Nat) : PoolRehearsal :=
  settle <| match who with
    | some w => r.finish w
    | none => r.timeOut

/-- The alarms that are due, the earliest first. -/
def due (r : PoolRehearsal) : List (Nat × Option Nat) :=
  (r.alarms.filter fun a => a.1 ≤ r.clock).mergeSort fun a b => a.1 ≤ b.1

/-- Sets the clock: the alarms that are due go off one after another. That
of a worker that has been stopped meanwhile does nothing. -/
def setClock (now : Nat) (r : PoolRehearsal) : PoolRehearsal :=
  let r := { r with clock := now }
  let rest := r.alarms.filter fun a => !(a.1 ≤ now)
  r.due.foldl (fun r a => r.ring a.2) { r with alarms := rest }

/-- Puts the clock forward until shutting down is over, by so many alarms at
most. -/
def awaitShutdown : Nat → PoolRehearsal → PoolRehearsal
  | 0, r => r
  | n + 1, r =>
    if r.pool.report?.isSome then r
    else
      match (r.alarms.map Prod.fst).min? with
      | some now => awaitShutdown n (r.setClock now)
      | none => r

/-! ## Orders -/

/-- A report is handed in. -/
def add (n : Nat) (r : PoolRehearsal) : PoolRehearsal := settle (r.step (.submit n))

/-- Permits are given. -/
def release (n : Nat) (r : PoolRehearsal) : PoolRehearsal :=
  settle { r with permits := r.permits + n }

/-- Time goes by. -/
def advance (span : Nat) (r : PoolRehearsal) : PoolRehearsal := r.setClock (r.clock + span)

/-- The pool is told to close. -/
def cancel (r : PoolRehearsal) : PoolRehearsal := settle (r.step .cancel)

/-- The pool is told to shut down. -/
def shutDown (r : PoolRehearsal) : PoolRehearsal := settle (r.step .shutDown)

/-- Time goes by until shutting down is over: an alarm for each report and
one for the workers are enough. -/
def await (r : PoolRehearsal) : PoolRehearsal :=
  { r.awaitShutdown (r.pool.queue.length + r.pool.workers.length + 1) with awaited := true }

/-- Whether shutting down is still going on; no answer if nobody has asked
for it or nobody waits for it any more. -/
def isStopping? (r : PoolRehearsal) : Option Bool :=
  if r.awaited || r.pool.shutdown = .unasked then none else some r.pool.report?.isNone

end PoolRehearsal

end CourierDispatch
