import CourierDispatch.Proofs.Location.PoolBooks

/-!
# Where reports are

However producers, workers and the one who shuts down come between one another, every
report that was handed in is at exactly one place (`ReportPool.places`), and the place
tells how often saving was called on it: never while it waits or is queued, and never
if it was refused; once, by the worker that holds it; and once, by a worker that has it
no longer, if it was completed. Nothing else can have become of it but that its worker
was stopped, which happens to each worker once at most and only after the time for the
workers was over, or that its worker broke down.

What shutting down reports as left in the queue is what was accepted and never taken.
-/

namespace CourierDispatch.ReportPool

variable {ρ : Type}

/-! ## Places -/

/-- **Where a report can be.** -/
inductive Place where
  /-- It was refused. -/
  | refused
  /-- Its producer waits for room in the queue. -/
  | waiting
  /-- It is in the queue, or was left there in the end. -/
  | queued
  /-- A worker holds it. -/
  | held (worker : Nat)
  /-- It was completed. -/
  | completed
  /-- Its worker was stopped. -/
  | aborted
  /-- Its worker broke down. -/
  | lost
  deriving DecidableEq

/-- How often saving was called on a report that is there. -/
def Place.calls : Place → Nat
  | refused | waiting | queued => 0
  | held _ | completed | aborted | lost => 1

/-- How often a call of saving has returned on a report that is there. -/
def Place.returns : Place → Nat
  | completed => 1
  | _ => 0

theorem mem_inHand {p : ReportPool ρ} {w : Nat} {x : ρ} (hx : x ∈ p.handOf w) : x ∈ p.inHand := by
  unfold handOf at hx
  cases hw : p.workers[w]? with
  | none =>
    rw [hw] at hx
    cases hx
  | some stage =>
    rw [hw] at hx
    exact List.mem_flatMap.2 ⟨stage, List.mem_of_getElem? hw, hx⟩

/-- A worker holds one report at most. -/
theorem nodup_handOf (p : ReportPool ρ) (w : Nat) : (p.handOf w).Nodup := by
  unfold handOf
  cases p.workers[w]? with
  | none => exact List.nodup_nil
  | some stage => cases stage <;> simp [SaverStage.inHand]

/-- **The reports that are at a place.** -/
def reportsAt (p : ReportPool ρ) : Place → List ρ
  | .refused => p.refused
  | .waiting => p.waiting
  | .queued => p.queue ++ p.left
  | .held w => p.handOf w
  | .completed => p.completed
  | .aborted => p.aborted
  | .lost => p.lost

/-- All reports, with their places. -/
def places (p : ReportPool ρ) : List (Place × ρ) :=
  p.refused.map (.refused, ·) ++ p.waiting.map (.waiting, ·)
    ++ (p.queue ++ p.left).map (.queued, ·)
    ++ p.workers.zipIdx.flatMap (fun x => x.1.inHand.map (.held x.2, ·))
    ++ p.completed.map (.completed, ·) ++ p.aborted.map (.aborted, ·) ++ p.lost.map (.lost, ·)

theorem mem_held {p : ReportPool ρ} {place : Place} {x : ρ} :
    (place, x) ∈ (p.workers.zipIdx.flatMap fun y => y.1.inHand.map (Place.held y.2, ·))
      ↔ ∃ w, place = .held w ∧ x ∈ p.handOf w := by
  rw [List.mem_flatMap]
  constructor
  · rintro ⟨⟨stage, w⟩, hstage, hx⟩
    obtain ⟨y, hy, heq⟩ := List.mem_map.1 hx
    obtain ⟨rfl, rfl⟩ := Prod.mk.inj heq
    refine ⟨w, rfl, ?_⟩
    unfold handOf
    rw [List.mem_zipIdx_iff_getElem?.1 hstage]
    exact hy
  · rintro ⟨w, rfl, hx⟩
    unfold handOf at hx
    cases hw : p.workers[w]? with
    | none =>
      rw [hw] at hx
      cases hx
    | some stage =>
      rw [hw] at hx
      exact ⟨(stage, w), List.mem_zipIdx_iff_getElem?.2 hw, List.mem_map_of_mem hx⟩

theorem mem_places {p : ReportPool ρ} {place : Place} {x : ρ} :
    (place, x) ∈ p.places ↔ x ∈ p.reportsAt place := by
  simp only [places, List.mem_append, mem_held, List.mem_map, Prod.mk.injEq]
  cases place <;> simp [reportsAt]

/-- The hands of workers without their numbers. -/
theorem map_snd_held (p : ReportPool ρ) :
    (p.workers.zipIdx.flatMap fun x => x.1.inHand.map (Place.held x.2, ·)).map Prod.snd
      = p.inHand := by
  have hone : ∀ x : SaverStage ρ × Nat,
      (x.1.inHand.map (Place.held x.2, ·)).map Prod.snd = x.1.inHand := by
    intro x
    rw [List.map_map]
    exact List.map_id _
  rw [List.map_flatMap]
  simp only [hone]
  rw [inHand, ← List.flatMap_map Prod.fst SaverStage.inHand, List.zipIdx_map_fst]

/-- Reports without their places. -/
theorem map_snd_places (p : ReportPool ρ) :
    p.places.map Prod.snd = p.refused ++ p.waiting ++ (p.queue ++ p.left) ++ p.inHand
      ++ p.completed ++ p.aborted ++ p.lost := by
  have hone : ∀ (place : Place) (l : List ρ), (l.map (place, ·)).map Prod.snd = l := by
    intro place l
    rw [List.map_map]
    exact List.map_id l
  simp only [places, List.map_append, map_snd_held, hone]

variable [DecidableEq ρ]

namespace Chronicle

variable {workers capacity : Nat} {c : Chronicle ρ}

/-- No report was handed in twice, since reports are numbered. -/
theorem Balanced.nodup_handedIn (h : c.Balanced) : c.handedIn.Nodup :=
  .of_map (·.number) (h.numbered ▸ List.nodup_range)

/-- **The reports at the places are those that were handed in.** -/
theorem Balanced.perm_places (h : c.Balanced) :
    (c.pool.places.map Prod.snd).Perm c.handedIn := by
  refine List.perm_iff_count.2 fun x => ?_
  have haccepted := congrArg (List.count x) h.accepted
  have hbegun := h.begun x
  rw [h.handedIn, map_snd_places]
  simp only [List.count_append, calls] at haccepted hbegun ⊢
  omega

/-- **The place of a report tells how often saving was called on it.** -/
theorem Balanced.calls_of_mem (h : c.Balanced) (place : Place) {x : Handed ρ}
    (hx : x ∈ c.pool.reportsAt place) : c.calls x = place.calls ∧ c.returns x = place.returns := by
  have hone : (c.pool.places.map Prod.snd).count x ≤ 1 :=
    List.nodup_iff_count_le_one.1 (h.perm_places.nodup_iff.2 h.nodup_handedIn) x
  have hcalls := h.begun x
  have hreturns : c.returns x = c.pool.completed.count x := by rw [returns, h.returned]
  have hplace := List.count_pos_iff.2 hx
  rw [map_snd_places] at hone
  simp only [List.count_append] at hone
  -- it is there once, and so in none of the other lists
  cases place with
  | held w =>
    have hhand : 0 < c.pool.inHand.count x := List.count_pos_iff.2 (mem_inHand hx)
    simp only [Place.calls, Place.returns]
    omega
  | _ =>
    simp only [reportsAt, List.count_append, Place.calls, Place.returns] at hplace ⊢
    omega

/-- A report is at its place once. -/
theorem Balanced.nodup_reportsAt (h : c.Balanced) (place : Place) :
    (c.pool.reportsAt place).Nodup := by
  cases place with
  | held w => exact nodup_handOf _ w
  | _ =>
    refine List.nodup_iff_count_le_one.2 fun x => ?_
    have hone : (c.pool.places.map Prod.snd).count x ≤ 1 :=
      List.nodup_iff_count_le_one.1 (h.perm_places.nodup_iff.2 h.nodup_handedIn) x
    rw [map_snd_places] at hone
    simp only [List.count_append, reportsAt] at hone ⊢
    omega

/-- **A report that was handed in is at one place.** -/
theorem Balanced.existsUnique_place (h : c.Balanced) {x : Handed ρ} (hx : x ∈ c.handedIn) :
    ∃! place, x ∈ c.pool.reportsAt place := by
  have hnodup := h.perm_places.nodup_iff.2 h.nodup_handedIn
  obtain ⟨⟨place, _⟩, hplace, rfl⟩ := List.mem_map.1 (h.perm_places.mem_iff.2 hx)
  refine ⟨place, mem_places.1 hplace, fun place' hplace' => ?_⟩
  have heq := List.inj_on_of_nodup_map hnodup (mem_places.2 hplace') hplace rfl
  exact congrArg Prod.fst heq

/-! ## After shutting down -/

/-- **Nothing is queued or taken any more** once shutting down is over. -/
theorem run_of_over {report : ShutdownReport} (h : c.Kept workers capacity)
    (hover : c.pool.report? = some report) (es : List (Event ρ)) :
    (c.run es).pool.report? = some report ∧ (c.run es).pool.accepted = c.pool.accepted
      ∧ (c.run es).begun = c.begun := by
  refine (run_preserves (P := fun c' => c'.Kept workers capacity ∧ c'.pool.report? = some report
    ∧ c'.pool.accepted = c.pool.accepted ∧ c'.begun = c.begun) es ?_ ⟨h, hover, rfl, rfl⟩).2
  rintro e - c' pool hs ⟨hkept, hover', haccepted, hbegun⟩
  obtain ⟨hover'', -, hsame, hnone⟩ := step_of_over hkept.orderly hover' hs
  refine ⟨hkept.step hs, hover'', hsame.trans haccepted, ?_⟩
  rw [note, hnone, List.append_nil]
  exact hbegun

omit [DecidableEq ρ] in
/-- A report that is handed in to a pool that is closing is refused, and nothing else
happens. -/
theorem act_submit_of_closing (hclosing : c.pool.closing = true)
    (hthere : c.pool.producersGone = false) (r : ρ) :
    (c.act (.submit r)).pool
      = { c.pool with refused := c.pool.refused ++ [⟨c.handedIn.length, r⟩] } := by
  have hstep : c.pool.step? ((Event.submit r).map (Handed.mk c.handedIn.length))
      = some { c.pool with refused := c.pool.refused ++ [⟨c.handedIn.length, r⟩] } := by
    simp only [Event.map, step?, submit?, hthere, hclosing, if_true, Bool.false_eq_true, if_false]
  unfold act
  rw [hstep]
  rfl

/-- What is left in the queue is what was accepted and never taken. -/
theorem Kept.residual {report : ShutdownReport} (h : c.Kept workers capacity)
    (hover : c.pool.report? = some report) :
    report.residual = c.pool.accepted.countP (c.calls · = 0) := by
  obtain ⟨-, hqueue, hresidual⟩ := h.orderly.whenOver report hover
  have htaken : (c.begun.map Prod.snd).countP (c.calls · = 0) = 0 := by
    refine List.countP_eq_zero.2 fun x hx => ?_
    have hpos : 0 < c.calls x := List.count_pos_iff.2 hx
    simpa using Nat.ne_of_gt hpos
  have hleft : c.pool.left.countP (c.calls · = 0) = c.pool.left.length := by
    refine List.countP_eq_length.2 fun x hx => ?_
    have hqueued : x ∈ c.pool.reportsAt .queued := List.mem_append_right _ hx
    exact decide_eq_true (h.balanced.calls_of_mem .queued hqueued).1
  rw [hresidual, h.balanced.accepted, hqueue, List.nil_append, List.countP_append, htaken, hleft,
    Nat.zero_add]

/-! ## Conservation -/

/-- **Every report is accounted for.** -/
structure Conserved (workers capacity : Nat) (c : Chronicle ρ) : Prop where
  /-- A report that was handed in is at exactly one place, -/
  placed : ∀ x ∈ c.handedIn, ∃! place, x ∈ c.pool.reportsAt place
  /-- and once; -/
  once : ∀ place, (c.pool.reportsAt place).Nodup
  /-- nothing else is at any place. -/
  known : ∀ place, ∀ x ∈ c.pool.reportsAt place, x ∈ c.handedIn
  /-- Saving was called on it, and has returned, as its place says. -/
  saved : ∀ place, ∀ x ∈ c.pool.reportsAt place,
    c.calls x = place.calls ∧ c.returns x = place.returns
  /-- What is refused remains so, and saving is never called on it. -/
  refused : ∀ x ∈ c.pool.refused, ∀ es, x ∈ (c.run es).pool.refused ∧ (c.run es).calls x = 0
  /-- There is no more in the queue than it has room for, -/
  queue : c.pool.queue.length ≤ max capacity 1
  /-- and no more in hand than there are workers. -/
  inHand : c.pool.inHand.length ≤ max workers 1

/-- **What a report of a shutdown says is so**, and remains so. -/
structure Accounted (report : ShutdownReport) (c : Chronicle ρ) : Prop where
  /-- So many reports were accepted and never taken by a worker. -/
  residual : report.residual = c.pool.accepted.countP (c.calls · = 0)
  /-- The reports that were aborted are those on which a worker was stopped, -/
  aborted : c.pool.aborted = c.cutOff.map Prod.snd
  /-- none of them on two; -/
  onePerWorker : (c.cutOff.map Prod.fst).Nodup
  /-- and there are none if the workers ended in time. -/
  inTime : report.timedOut = false → c.pool.aborted = []
  /-- Nothing is in the queue, and nothing is let into it any more. -/
  closed : ∀ es, (c.run es).pool.queue = [] ∧ (c.run es).pool.accepted = c.pool.accepted
  /-- A report that is handed in is refused, and nothing else happens. -/
  turnedDown : ∀ es r, (c.run es).pool.producersGone = false →
    ((c.run es).act (.submit r)).pool
      = { (c.run es).pool with
          refused := (c.run es).pool.refused ++ [⟨(c.run es).handedIn.length, r⟩] }

theorem Kept.conserved (h : c.Kept workers capacity) : c.Conserved workers capacity where
  placed _ hx := h.balanced.existsUnique_place hx
  once := h.balanced.nodup_reportsAt
  known _ _ hx := h.balanced.perm_places.mem_iff.1 (List.mem_map_of_mem (mem_places.2 hx))
  saved place _ hx := h.balanced.calls_of_mem place hx
  refused x hx es := by
    have hlater : x ∈ (c.run es).pool.refused := (refused_grows es c).subset hx
    exact ⟨hlater, ((h.run es).balanced.calls_of_mem .refused hlater).1⟩
  queue := h.capacity ▸ h.orderly.room
  inHand := h.workers ▸ length_flatMap_inHand_le _

theorem Kept.accounted {report : ShutdownReport} (h : c.Kept workers capacity)
    (hover : c.pool.report? = some report) : c.Accounted report where
  residual := h.residual hover
  aborted := h.balanced.cutOff.symm
  onePerWorker := h.stopped.nodup
  inTime hintime := by
    by_contra hsome
    have hstage := report?_eq_some.1 hover
    rcases h.orderly.aborted hsome with hstop | ⟨n, hlate⟩
    · cases hstage.symm.trans hstop
    · obtain rfl := ShutdownStage.over.inj (hstage.symm.trans hlate)
      cases hintime
  closed es := by
    obtain ⟨hlater, haccepted, -⟩ := run_of_over h hover es
    exact ⟨((h.run es).orderly.whenOver report hlater).2.1, haccepted⟩
  turnedDown es r hthere := by
    obtain ⟨hlater, -, -⟩ := run_of_over h hover es
    refine act_submit_of_closing ((h.run es).orderly.closing ?_) hthere r
    rw [report?_eq_some.1 hlater]
    rintro ⟨⟩

/-- **No report is lost or saved twice.** However a pool with any number of workers and any
room is used from its start, every report is accounted for; if no worker has broken down,
none was lost so; and when shutting down is over, what was reported of it is so. -/
theorem reports_conserved (workers capacity : Nat) (es : List (Event ρ)) :
    ((start workers capacity : Chronicle ρ).run es).Conserved workers capacity
      ∧ ((∀ e ∈ es, ∀ w, e ≠ .breakDown w) →
        ∀ x, x ∉ ((start workers capacity : Chronicle ρ).run es).pool.reportsAt .lost)
      ∧ ∀ report, ((start workers capacity : Chronicle ρ).run es).pool.report? = some report →
        ((start workers capacity : Chronicle ρ).run es).Accounted report := by
  have hkept := (Kept.start ρ workers capacity).run es
  refine ⟨hkept.conserved, fun hsound x hx => ?_, fun report hover => hkept.accounted hover⟩
  have hnone : ((start workers capacity : Chronicle ρ).run es).pool.lost = [] := lost_run hsound
  rw [reportsAt, hnone] at hx
  cases hx

/-- A worker that is stopped on one report, with another left in the queue. -/
theorem accounted_when_late :
    ((start 1 1 : Chronicle Nat).run [.submit 7, .enter 0, .take 0, .submit 8, .enter 0, .shutDown,
      .closeQueue, .timeOut, .abort 0, .conclude]).Accounted ⟨1, true⟩ :=
  (reports_conserved 1 1 _).2.2 _ (by decide)

end Chronicle

end CourierDispatch.ReportPool
