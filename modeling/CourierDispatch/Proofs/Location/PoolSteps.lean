import CourierDispatch.Location.Pool

/-!
# The steps of the pool

`ReportPool.step?` computes; this module says once what a step can be (`ReportPool.Step`),
with everything that the step went by. What is proved of the pool is proved by going
through these kinds of step, and never by unfolding the function again.

What is told of the pool besides is what happened in it. A pool does not look at the
reports that it is given, so two producers may hand in the same one; and whether each of
the two was saved, and how many times, cannot be read off the reports. A chronicle
(`ReportPool.Chronicle`) therefore numbers reports as they are handed in, and notes with
the worker whenever saving is called, when it returns, and when a worker is stopped on a
report.
-/

namespace CourierDispatch.ReportPool

variable {ρ ρ' : Type}

/-! ## What a step can be -/

/-- **What a step of the pool can be.** -/
inductive Step (p : ReportPool ρ) : Event ρ → ReportPool ρ → Prop where
  /-- A report is handed in and refused at once. -/
  | turnedDown {r : ρ} (hthere : p.producersGone = false) (hclosing : p.closing = true) :
      Step p (.submit r) { p with refused := p.refused ++ [r] }
  /-- A report is handed in. -/
  | handedIn {r : ρ} (hthere : p.producersGone = false) (hopen : p.closing = false) :
      Step p (.submit r) { p with waiting := p.waiting ++ [r] }
  /-- A producer gets its report into the queue. -/
  | entered {n : Nat} {r : ρ} (hr : p.waiting[n]? = some r) (hopen : p.isClosed = false)
      (hroom : p.queue.length < p.capacity) :
      Step p (.enter n)
        { p with
          waiting := p.waiting.eraseIdx n
          queue := p.queue ++ [r]
          accepted := p.accepted ++ [r] }
  /-- A producer is sent away. -/
  | sentAway {n : Nat} {r : ρ} (hr : p.waiting[n]? = some r) (hclosing : p.closing = true) :
      Step p (.refuse n)
        { p with waiting := p.waiting.eraseIdx n, refused := p.refused ++ [r] }
  /-- A worker takes a report. -/
  | took {w : Nat} {d : Bool} {r : ρ} {rest : List ρ} (hw : p.workers[w]? = some (.next d))
      (hqueue : p.queue = r :: rest) :
      Step p (.take w) ({ p with queue := rest }.setWorker w (.saving d r))
  /-- A worker sees that no report will come. -/
  | noticed {w : Nat} (hw : p.workers[w]? = some .idle)
      (hwhy : p.closing = true ∨ (p.producersGone = true ∧ p.queue = [])) :
      Step p (.notice w) (p.setWorker w .draining)
  /-- The saving of a report comes to its end. -/
  | ended {w : Nat} {d saved : Bool} {r : ρ} (hw : p.workers[w]? = some (.saving d r)) :
      Step p (.complete w saved)
        ({ p with
          completed := p.completed ++ [r]
          failed := if saved then p.failed else p.failed ++ [r] }.setWorker w (.next d))
  /-- A worker breaks down. -/
  | brokeDown {w : Nat} {d : Bool} {r : ρ} (hw : p.workers[w]? = some (.saving d r)) :
      Step p (.breakDown w) ({ p with lost := p.lost ++ [r] }.setWorker w .ended)
  /-- A worker ends. -/
  | retired {w : Nat} (hw : p.workers[w]? = some .draining) (hqueue : p.queue = []) :
      Step p (.retire w) (p.setWorker w .ended)
  /-- The last producer goes away. -/
  | leaving (hnone : p.waiting = []) : Step p .leave { p with producersGone := true }
  /-- The pool is told to close. -/
  | cancelled : Step p .cancel { p with closing := true }
  /-- The pool is told to shut down. -/
  | asked (hstage : p.shutdown = .unasked) :
      Step p .shutDown { p with closing := true, shutdown := .closing }
  /-- The queue is closed. -/
  | closed (hstage : p.shutdown = .closing) : Step p .closeQueue { p with shutdown := .waiting }
  /-- The time for the workers is over. -/
  | timedOut (hstage : p.shutdown = .waiting) : Step p .timeOut { p with shutdown := .stopping }
  /-- A worker is stopped. -/
  | stopped {w : Nat} {stage : SaverStage ρ} (hstage : p.shutdown = .stopping)
      (hw : p.workers[w]? = some stage) (hlive : stage.isEnded = false) :
      Step p (.abort w) ({ p with aborted := p.aborted ++ stage.inHand }.setWorker w .ended)
  /-- Shutting down is over. -/
  | concluded (late : Bool) (hstage : p.shutdown = if late then .stopping else .waiting)
      (hended : p.allEnded = true) : Step p .conclude (p.concludeWith late)

variable {p p' : ReportPool ρ} {e : Event ρ}

/-- **Every step is of one of these kinds.** -/
theorem step_of_step? (h : p.step? e = some p') : p.Step e p' := by
  cases e with
  | submit r =>
    simp only [step?, submit?, Option.ite_none_left_eq_some] at h
    obtain ⟨hthere, h⟩ := h
    split at h
    · next hclosing =>
      obtain rfl := Option.some.inj h
      exact .turnedDown (by simpa using hthere) hclosing
    · next hopen =>
      obtain rfl := Option.some.inj h
      exact .handedIn (by simpa using hthere) (by simpa using hopen)
  | enter n =>
    simp only [step?, enter?] at h
    split at h
    · next r hr =>
      obtain ⟨⟨hopen, hroom⟩, h⟩ := Option.ite_none_right_eq_some.1 h
      obtain rfl := Option.some.inj h
      exact .entered hr hopen hroom
    · cases h
  | refuse n =>
    simp only [step?, refuse?] at h
    split at h
    · next r hr =>
      obtain ⟨hclosing, h⟩ := Option.ite_none_right_eq_some.1 h
      obtain rfl := Option.some.inj h
      exact .sentAway hr hclosing
    · cases h
  | take w =>
    simp only [step?, take?] at h
    split at h
    · next r rest hw hqueue =>
      obtain rfl := Option.some.inj h
      exact .took (d := false) hw hqueue
    · next r rest hw hqueue =>
      obtain rfl := Option.some.inj h
      exact .took (d := true) hw hqueue
    · cases h
  | notice w =>
    simp only [step?, notice?] at h
    split at h
    · next hw =>
      obtain ⟨hwhy, h⟩ := Option.ite_none_right_eq_some.1 h
      obtain rfl := Option.some.inj h
      exact .noticed hw (by simpa using hwhy)
    · cases h
  | complete w saved =>
    simp only [step?, complete?] at h
    split at h
    · next d r hw =>
      obtain rfl := Option.some.inj h
      exact .ended hw
    · cases h
  | breakDown w =>
    simp only [step?, breakDown?] at h
    split at h
    · next d r hw =>
      obtain rfl := Option.some.inj h
      exact .brokeDown hw
    · cases h
  | retire w =>
    simp only [step?, retire?] at h
    split at h
    · next hw hqueue =>
      obtain rfl := Option.some.inj h
      exact .retired hw hqueue
    · cases h
  | leave =>
    obtain ⟨hnone, h⟩ := Option.ite_none_right_eq_some.1 h
    obtain rfl := Option.some.inj h
    exact .leaving (by simpa using hnone)
  | cancel =>
    obtain rfl := Option.some.inj h
    exact .cancelled
  | shutDown =>
    obtain ⟨hstage, h⟩ := Option.ite_none_right_eq_some.1 h
    obtain rfl := Option.some.inj h
    exact .asked hstage
  | closeQueue =>
    obtain ⟨hstage, h⟩ := Option.ite_none_right_eq_some.1 h
    obtain rfl := Option.some.inj h
    exact .closed hstage
  | timeOut =>
    obtain ⟨hstage, h⟩ := Option.ite_none_right_eq_some.1 h
    obtain rfl := Option.some.inj h
    exact .timedOut hstage
  | abort w =>
    simp only [step?, abort?] at h
    split at h
    · next stage hstage hw =>
      obtain ⟨hlive, h⟩ := Option.ite_none_left_eq_some.1 h
      obtain rfl := Option.some.inj h
      exact .stopped hstage hw (by simpa using hlive)
    · cases h
  | conclude =>
    simp only [step?, conclude?] at h
    split at h
    · next hstage =>
      obtain ⟨hended, h⟩ := Option.ite_none_right_eq_some.1 h
      obtain rfl := Option.some.inj h
      exact .concluded false hstage hended
    · next hstage =>
      obtain ⟨hended, h⟩ := Option.ite_none_right_eq_some.1 h
      obtain rfl := Option.some.inj h
      exact .concluded true hstage hended
    · cases h

/-! ## Reports as they were handed in -/

/-- **A report as it was handed in.** -/
structure Handed (ρ : Type) where
  /-- How many were handed in before. -/
  number : Nat
  /-- The report. -/
  report : ρ
  deriving DecidableEq

/-- The report that is handed in. -/
def Event.report? : Event ρ → Option ρ
  | .submit r => some r
  | _ => none

/-- A step with another report to be handed in. -/
def Event.map (f : ρ → ρ') : Event ρ → Event ρ'
  | .submit r => .submit (f r)
  | .enter n => .enter n
  | .refuse n => .refuse n
  | .take w => .take w
  | .notice w => .notice w
  | .complete w saved => .complete w saved
  | .breakDown w => .breakDown w
  | .retire w => .retire w
  | .leave => .leave
  | .cancel => .cancel
  | .shutDown => .shutDown
  | .closeQueue => .closeQueue
  | .timeOut => .timeOut
  | .abort w => .abort w
  | .conclude => .conclude

theorem Event.report?_map (f : ρ → ρ') (e : Event ρ) : (e.map f).report? = e.report?.map f := by
  cases e <;> rfl

theorem Event.map_ne_breakDown (f : ρ → ρ') {e : Event ρ} (h : ∀ w, e ≠ .breakDown w) (w : Nat) :
    e.map f ≠ .breakDown w := by
  cases e with
  | breakDown w' => exact absurd rfl (h w')
  | _ => rintro ⟨⟩

/-- The report that a worker has in hand. -/
def handOf (p : ReportPool ρ) (w : Nat) : List ρ := (p.workers[w]?.elim [] SaverStage.inHand)

/-- The report on which saving is called in a step, with the worker. -/
def begins (p : ReportPool ρ) : Event ρ → List (Nat × ρ)
  | .take w => p.queue.head?.toList.map (w, ·)
  | _ => []

/-- The report on which saving returns in a step, with the worker. -/
def returns (p : ReportPool ρ) : Event ρ → List (Nat × ρ)
  | .complete w _ => (p.handOf w).map (w, ·)
  | _ => []

/-- The report on which a worker is stopped in a step, with the worker. -/
def cutsOff (p : ReportPool ρ) : Event ρ → List (Nat × ρ)
  | .abort w => (p.handOf w).map (w, ·)
  | _ => []

/-- **A pool with what has happened in it.** -/
structure Chronicle (ρ : Type) where
  /-- The pool. -/
  pool : ReportPool (Handed ρ)
  /-- The reports that were handed in. -/
  handedIn : List (Handed ρ) := []
  /-- The calls of saving, each with its worker. -/
  begun : List (Nat × Handed ρ) := []
  /-- The calls of saving that have returned. -/
  returned : List (Nat × Handed ρ) := []
  /-- The calls of saving on which a worker was stopped. -/
  cutOff : List (Nat × Handed ρ) := []

namespace Chronicle

/-- A pool at its start. -/
def start (workers capacity : Nat) : Chronicle ρ := { pool := .start workers capacity }

/-- What is noted of a step that leads to a pool. -/
def note (e : Event (Handed ρ)) (pool : ReportPool (Handed ρ)) (c : Chronicle ρ) : Chronicle ρ where
  pool := pool
  handedIn := c.handedIn ++ e.report?.toList
  begun := c.begun ++ c.pool.begins e
  returned := c.returned ++ c.pool.returns e
  cutOff := c.cutOff ++ c.pool.cutsOff e

/-- **One step**, if it can be taken. A report that is handed in gets its number. -/
def act (c : Chronicle ρ) (e : Event ρ) : Chronicle ρ :=
  match c.pool.step? (e.map (Handed.mk c.handedIn.length)) with
  | some pool => c.note (e.map (Handed.mk c.handedIn.length)) pool
  | none => c

/-- Steps one after another. -/
def run (es : List (Event ρ)) (c : Chronicle ρ) : Chronicle ρ := es.foldl act c

theorem run_append (es es' : List (Event ρ)) (c : Chronicle ρ) :
    c.run (es ++ es') = (c.run es).run es' :=
  List.foldl_append

variable {c : Chronicle ρ}

/-- **What every step keeps every run keeps.** -/
theorem run_preserves {P : Chronicle ρ → Prop} (es : List (Event ρ))
    (hstep : ∀ e ∈ es, ∀ (c : Chronicle ρ) (pool : ReportPool (Handed ρ)),
      c.pool.Step (e.map (Handed.mk c.handedIn.length)) pool → P c →
        P (c.note (e.map (Handed.mk c.handedIn.length)) pool))
    (h : P c) : P (c.run es) := by
  induction es generalizing c with
  | nil => exact h
  | cons e es ih =>
    refine ih (fun e' he' => hstep e' (List.mem_cons_of_mem e he')) ?_
    unfold act
    split
    · next pool hpool => exact hstep e List.mem_cons_self c pool (step_of_step? hpool) h
    · exact h

end Chronicle

end CourierDispatch.ReportPool
