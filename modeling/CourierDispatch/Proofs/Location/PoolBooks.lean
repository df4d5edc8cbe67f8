import CourierDispatch.Proofs.Location.PoolSteps
import Mathlib.Data.List.Nodup
import Mathlib.Data.List.Perm.Basic

/-!
# The books of the pool

What every step keeps. A pool that is used from its start is orderly (`Orderly`): reports
are left behind, and workers are stopped, only as shutting down says. Its books balance
(`Chronicle.Balanced`): what was handed in waits, was refused or was accepted; what was
accepted was taken, in this order, or is still in the queue; and what was taken is in the
hand of a worker, or came to one of its ends. And no worker is stopped twice
(`Chronicle.Stopped`). Together this is what is true however a pool is used
(`Chronicle.Kept`).
-/

namespace CourierDispatch.ReportPool

variable {ρ : Type}

/-! ## Hands -/

/-- The reports that workers have in hand. -/
def inHand (p : ReportPool ρ) : List ρ := p.workers.flatMap SaverStage.inHand

/-- What a worker holds when it goes on to another stage. -/
theorem count_inHand_set [DecidableEq ρ] {workers : List (SaverStage ρ)} {w : Nat}
    {stage : SaverStage ρ} (hw : workers[w]? = some stage) (stage' : SaverStage ρ) (r : ρ) :
    ((workers.set w stage').flatMap SaverStage.inHand).count r + stage.inHand.count r
      = (workers.flatMap SaverStage.inHand).count r + stage'.inHand.count r := by
  induction workers generalizing w with
  | nil => cases hw
  | cons s rest ih =>
    cases w with
    | zero =>
      obtain rfl := Option.some.inj hw
      rw [List.set_cons_zero, List.flatMap_cons, List.flatMap_cons, List.count_append,
        List.count_append]
      omega
    | succ w =>
      have hrest := ih (w := w) hw
      rw [List.set_cons_succ, List.flatMap_cons, List.flatMap_cons, List.count_append,
        List.count_append]
      omega

theorem length_inHand_le (s : SaverStage ρ) : s.inHand.length ≤ 1 := by
  cases s with
  | saving d r => exact Nat.le_refl 1
  | _ => exact Nat.zero_le 1

/-- What is left when a producer goes away. -/
theorem count_eraseIdx [DecidableEq ρ] {waiting : List ρ} {n : Nat} {r : ρ}
    (hr : waiting[n]? = some r) (x : ρ) :
    (waiting.eraseIdx n).count x + [r].count x = waiting.count x := by
  obtain ⟨hn, rfl⟩ := List.getElem?_eq_some_iff.1 hr
  rw [Nat.add_comm, ← List.count_append]
  exact (List.getElem_cons_eraseIdx_perm hn).count_eq x

/-- Workers hold one report each at most. -/
theorem length_flatMap_inHand_le (workers : List (SaverStage ρ)) :
    (workers.flatMap SaverStage.inHand).length ≤ workers.length := by
  induction workers with
  | nil => exact Nat.le_refl 0
  | cons s rest ih =>
    have hone := length_inHand_le s
    rw [List.flatMap_cons, List.length_append, List.length_cons]
    omega

/-- A worker that has ended holds nothing. -/
theorem inHand_of_allEnded {p : ReportPool ρ} (h : p.allEnded = true) : p.inHand = [] := by
  refine List.flatMap_eq_nil_iff.2 fun s hs => ?_
  have hended := List.all_eq_true.1 h s hs
  cases s with
  | ended => rfl
  | _ => cases hended

theorem inHand_next (d : Bool) : (SaverStage.next d : SaverStage ρ).inHand = [] := by
  cases d <;> rfl

/-! ## Shutting down -/

theorem report?_eq_some {p : ReportPool ρ} {report : ShutdownReport} :
    p.report? = some report ↔ p.shutdown = .over report := by
  unfold report?
  cases p.shutdown <;> simp

theorem report?_of_isClosed {p : ReportPool ρ} (h : p.isClosed = false) : p.report? = none := by
  unfold isClosed at h
  unfold report?
  split at h <;> simp_all

/-- **What is true of every pool** that has been used from its start. -/
structure Orderly (p : ReportPool ρ) : Prop where
  /-- The queue has room for what is in it. -/
  room : p.queue.length ≤ p.capacity
  /-- Reports are left behind only when shutting down is over. -/
  left : p.report? = none → p.left = []
  /-- A pool that is told to shut down is closing. -/
  closing : p.shutdown ≠ .unasked → p.closing = true
  /-- Workers are stopped only when the time for them is over. -/
  aborted : p.aborted ≠ [] → p.shutdown = .stopping ∨ ∃ n, p.shutdown = .over ⟨n, true⟩
  /-- When shutting down is over, all workers have ended, and what was in the queue was
  counted. -/
  whenOver : ∀ report, p.report? = some report →
    p.allEnded = true ∧ p.queue = [] ∧ report.residual = p.left.length

namespace Orderly

variable {p p' : ReportPool ρ} {e : Event ρ} {w : Nat} {stage : SaverStage ρ}

theorem start (workers capacity : Nat) : (start workers capacity : ReportPool ρ).Orderly :=
  ⟨Nat.zero_le _, fun _ => rfl, fun h => absurd rfl h, fun h => absurd rfl h,
    fun _ h => (by cases h)⟩

/-- Shutting down is not over while a worker is there. -/
theorem report?_of_live (h : p.Orderly) (hw : p.workers[w]? = some stage)
    (hlive : stage.isEnded = false) : p.report? = none := by
  cases hreport : p.report? with
  | none => rfl
  | some report =>
    have hended := List.all_eq_true.1 (h.whenOver report hreport).1 _ (List.mem_of_getElem? hw)
    rw [hlive] at hended
    cases hended

/-- What workers do while shutting down is not over. -/
theorem of_report?_eq_none (h : p.Orderly) (hnone : p.report? = none)
    (hroom : p'.queue.length ≤ p'.capacity) (hstage : p'.shutdown = p.shutdown)
    (hclosing : p'.closing = p.closing) (hleft : p'.left = p.left)
    (haborted : p'.aborted = p.aborted ∨ p.shutdown = .stopping) : p'.Orderly := by
  have hnone' : p'.report? = none := by
    unfold report? at hnone ⊢
    rw [hstage]
    exact hnone
  refine ⟨hroom, fun _ => ?_, ?_, fun hne => ?_, fun _ hsome => ?_⟩
  · rw [hleft]
    exact h.left hnone
  · rw [hstage, hclosing]
    exact h.closing
  · rw [hstage]
    rcases haborted with hsame | hstopping
    · rw [hsame] at hne
      exact h.aborted hne
    · exact .inl hstopping
  · rw [hnone'] at hsome
    cases hsome

/-- **Every step keeps a pool orderly.** -/
theorem step (h : p.Orderly) (hs : p.Step e p') : p'.Orderly := by
  have hroom := h.room
  cases hs with
  | turnedDown _ _ => exact ⟨h.room, h.left, h.closing, h.aborted, h.whenOver⟩
  | handedIn _ _ => exact ⟨h.room, h.left, h.closing, h.aborted, h.whenOver⟩
  | @entered n r hr hopen hroom' =>
    refine h.of_report?_eq_none (report?_of_isClosed hopen) ?_ rfl rfl rfl (.inl rfl)
    rw [List.length_append, List.length_singleton]
    exact hroom'
  | sentAway _ _ => exact ⟨h.room, h.left, h.closing, h.aborted, h.whenOver⟩
  | @took w d r rest hw hqueue =>
    have hnone := h.report?_of_live hw (by cases d <;> rfl)
    refine h.of_report?_eq_none hnone ?_ rfl rfl rfl (.inl rfl)
    rw [hqueue] at hroom
    exact Nat.le_of_succ_le hroom
  | noticed hw _ =>
    exact h.of_report?_eq_none (h.report?_of_live hw rfl) hroom rfl rfl rfl (.inl rfl)
  | ended hw =>
    exact h.of_report?_eq_none (h.report?_of_live hw rfl) hroom rfl rfl rfl (.inl rfl)
  | brokeDown hw =>
    exact h.of_report?_eq_none (h.report?_of_live hw rfl) hroom rfl rfl rfl (.inl rfl)
  | retired hw _ =>
    exact h.of_report?_eq_none (h.report?_of_live hw rfl) hroom rfl rfl rfl (.inl rfl)
  | leaving _ => exact ⟨h.room, h.left, h.closing, h.aborted, h.whenOver⟩
  | cancelled => exact ⟨h.room, h.left, fun _ => rfl, h.aborted, h.whenOver⟩
  | asked hstage =>
    have hleft := h.left (by unfold report?; rw [hstage])
    have haborted := h.aborted
    rw [hstage] at haborted
    refine ⟨hroom, fun _ => hleft, fun _ => rfl, fun hne => ?_, fun _ hover => (by cases hover)⟩
    rcases haborted hne with hstop | ⟨_, hover⟩
    · cases hstop
    · cases hover
  | closed hstage =>
    have hleft := h.left (by unfold report?; rw [hstage])
    have haborted := h.aborted
    rw [hstage] at haborted
    refine ⟨hroom, fun _ => hleft, fun _ => h.closing (by rw [hstage]; simp), fun hne => ?_,
      fun _ hover => (by cases hover)⟩
    rcases haborted hne with hstop | ⟨_, hover⟩
    · cases hstop
    · cases hover
  | timedOut hstage =>
    have hleft := h.left (by unfold report?; rw [hstage])
    exact ⟨hroom, fun _ => hleft, fun _ => h.closing (by rw [hstage]; simp), fun _ => .inl rfl,
      fun _ hover => (by cases hover)⟩
  | stopped hstage hw hlive =>
    exact h.of_report?_eq_none (h.report?_of_live hw hlive) hroom rfl rfl rfl (.inr hstage)
  | concluded late hstage hended =>
    have hclosing := h.closing (by rw [hstage]; cases late <;> simp)
    refine ⟨Nat.zero_le _, fun hnone => (by cases hnone), fun _ => hclosing, fun hne => ?_,
      fun _ hover => ?_⟩
    · cases late with
      | true => exact .inr ⟨_, rfl⟩
      | false =>
        rcases h.aborted hne with hstop | ⟨_, hover⟩
        · rw [hstage] at hstop
          cases hstop
        · rw [hstage] at hover
          cases hover
    · obtain rfl := Option.some.inj hover
      exact ⟨hended, rfl, rfl⟩

end Orderly

/-- Steps leave alone how many workers there are, and how much room. -/
theorem size_step {p p' : ReportPool ρ} {e : Event ρ} (hs : p.Step e p') :
    p'.workers.length = p.workers.length ∧ p'.capacity = p.capacity := by
  cases hs <;> simp [setWorker, concludeWith]

/-- A worker that has ended stays so. -/
theorem ended_step {p p' : ReportPool ρ} {e : Event ρ} {w : Nat} (hs : p.Step e p')
    (hw : p.workers[w]? = some .ended) : p'.workers[w]? = some .ended := by
  have hother {w' : Nat} {stage stage' : SaverStage ρ} (hw' : p.workers[w']? = some stage)
      (hlive : stage.isEnded = false) : (p.workers.set w' stage')[w]? = some .ended := by
    rw [List.getElem?_set_ne, hw]
    rintro rfl
    obtain rfl := Option.some.inj (hw.symm.trans hw')
    cases hlive
  cases hs with
  | @took w' d _ _ hw' _ => exact hother hw' (by cases d <;> rfl)
  | noticed hw' _ => exact hother hw' rfl
  | ended hw' => exact hother hw' rfl
  | brokeDown hw' => exact hother hw' rfl
  | retired hw' _ => exact hother hw' rfl
  | stopped _ hw' hlive => exact hother hw' hlive
  | _ => exact hw

/-- **Nothing happens in a pool that was shut down** but that producers are sent away:
nothing enters the queue, and no worker takes anything. -/
theorem step_of_over {p p' : ReportPool ρ} {e : Event ρ} {report : ShutdownReport}
    (h : p.Orderly) (hover : p.report? = some report) (hs : p.Step e p') :
    p'.report? = some report ∧ p'.queue = p.queue ∧ p'.accepted = p.accepted
      ∧ p.begins e = [] := by
  have hdead {w : Nat} {stage : SaverStage ρ} (hw : p.workers[w]? = some stage)
      (hlive : stage.isEnded = false) : False := by
    rw [h.report?_of_live hw hlive] at hover
    cases hover
  have hstage := report?_eq_some.1 hover
  cases hs with
  | turnedDown _ _ => exact ⟨hover, rfl, rfl, rfl⟩
  | handedIn _ _ => exact ⟨hover, rfl, rfl, rfl⟩
  | entered _ hopen _ =>
    unfold isClosed at hopen
    rw [hstage] at hopen
    cases hopen
  | sentAway _ _ => exact ⟨hover, rfl, rfl, rfl⟩
  | @took _ d _ _ hw _ => exact (hdead hw (by cases d <;> rfl)).elim
  | noticed hw _ => exact (hdead hw rfl).elim
  | ended hw => exact (hdead hw rfl).elim
  | brokeDown hw => exact (hdead hw rfl).elim
  | retired hw _ => exact (hdead hw rfl).elim
  | leaving _ => exact ⟨hover, rfl, rfl, rfl⟩
  | cancelled => exact ⟨hover, rfl, rfl, rfl⟩
  | asked hother => cases hstage.symm.trans hother
  | closed hother => cases hstage.symm.trans hother
  | timedOut hother => cases hstage.symm.trans hother
  | stopped hother _ _ => cases hstage.symm.trans hother
  | concluded late hother _ =>
    rw [hstage] at hother
    cases late <;> cases hother

/-- Refused reports are kept. -/
theorem refused_step {p p' : ReportPool ρ} {e : Event ρ} (hs : p.Step e p') :
    p.refused <+: p'.refused := by
  cases hs with
  | turnedDown _ _ => exact List.prefix_append _ _
  | sentAway _ _ => exact List.prefix_append _ _
  | _ => exact List.prefix_refl _

/-- No report is lost but by a worker that breaks down. -/
theorem lost_step {p p' : ReportPool ρ} {e : Event ρ} (hs : p.Step e p')
    (hsound : ∀ w, e ≠ .breakDown w) : p'.lost = p.lost := by
  cases hs with
  | brokeDown _ => exact absurd rfl (hsound _)
  | _ => rfl

namespace Chronicle

/-- **A worker that was stopped has ended**, and none was stopped twice. -/
structure Stopped (c : Chronicle ρ) : Prop where
  /-- It has ended. -/
  ended : ∀ x ∈ c.cutOff, c.pool.workers[x.1]? = some .ended
  /-- None was stopped on two reports. -/
  nodup : (c.cutOff.map Prod.fst).Nodup

theorem Stopped.step {c : Chronicle ρ} {pool : ReportPool (Handed ρ)} {e : Event (Handed ρ)}
    (h : c.Stopped) (hs : c.pool.Step e pool) : (c.note e pool).Stopped := by
  have hbefore : ∀ x ∈ c.cutOff, pool.workers[x.1]? = some .ended :=
    fun x hx => ended_step hs (h.ended x hx)
  cases hs with
  | @stopped w stage _ hw hlive =>
    have hcuts : c.pool.cutsOff (.abort w) = stage.inHand.map (w, ·) := by
      simp only [cutsOff, handOf, hw, Option.elim_some]
    have hnew : ∀ x ∈ c.cutOff, x.1 ≠ w := by
      rintro x hx rfl
      obtain rfl := Option.some.inj ((h.ended x hx).symm.trans hw)
      cases hlive
    have hw' : w < c.pool.workers.length := (List.getElem?_eq_some_iff.1 hw).1
    refine ⟨fun x hx => ?_, ?_⟩
    · rcases List.mem_append.1 hx with hx | hx
      · exact hbefore x hx
      · rw [hcuts] at hx
        obtain ⟨r, -, rfl⟩ := List.mem_map.1 hx
        exact List.getElem?_set_self hw'
    · show ((c.cutOff ++ c.pool.cutsOff (.abort w)).map Prod.fst).Nodup
      rw [hcuts, List.map_append, List.map_map]
      refine h.nodup.append ?_ fun w' hold hcut => ?_
      · cases stage <;> simp [SaverStage.inHand]
      · obtain ⟨x, hx, rfl⟩ := List.mem_map.1 hold
        obtain ⟨r, -, hr⟩ := List.mem_map.1 hcut
        exact hnew x hx hr.symm
  | _ =>
    refine ⟨fun x hx => hbefore x ?_, ?_⟩
    · simpa [note, cutsOff] using hx
    · simpa [note, cutsOff] using h.nodup

variable {c : Chronicle ρ}

/-- A report that was refused stays so. -/
theorem refused_grows (es : List (Event ρ)) (c : Chronicle ρ) :
    c.pool.refused <+: (c.run es).pool.refused :=
  run_preserves (P := fun c' => c.pool.refused <+: c'.pool.refused) es
    (fun _ _ _ _ hs h => h.trans (refused_step hs)) (List.prefix_refl _)

/-- Where no worker breaks down no report is lost. -/
theorem lost_run {es : List (Event ρ)} (hsound : ∀ e ∈ es, ∀ w, e ≠ .breakDown w) :
    (c.run es).pool.lost = c.pool.lost :=
  run_preserves (P := fun c' => c'.pool.lost = c.pool.lost) es
    (fun _ he _ _ hs h => (lost_step hs (Event.map_ne_breakDown _ (hsound _ he))).trans h) rfl

end Chronicle

/-! ## The books -/

variable [DecidableEq ρ]

namespace Chronicle

/-- How often saving was called on a report. -/
def calls (c : Chronicle ρ) (h : Handed ρ) : Nat := (c.begun.map Prod.snd).count h

/-- How often a call of saving on a report has returned. -/
def returns (c : Chronicle ρ) (h : Handed ρ) : Nat := (c.returned.map Prod.snd).count h

/-- **The books balance.** -/
structure Balanced (c : Chronicle ρ) : Prop where
  /-- Reports are numbered as they were handed in. -/
  numbered : c.handedIn.map (·.number) = List.range c.handedIn.length
  /-- What was handed in was refused, waits or was accepted. -/
  handedIn : ∀ h, c.handedIn.count h
    = c.pool.refused.count h + c.pool.waiting.count h + c.pool.accepted.count h
  /-- What was accepted was taken, first accepted first, or is queued. -/
  accepted : c.pool.accepted = c.begun.map Prod.snd ++ (c.pool.queue ++ c.pool.left)
  /-- What was taken is in hand, or came to an end. -/
  begun : ∀ h, c.calls h = c.pool.inHand.count h
    + (c.pool.completed.count h + c.pool.aborted.count h + c.pool.lost.count h)
  /-- What is completed is that on which saving has returned. -/
  returned : c.returned.map Prod.snd = c.pool.completed
  /-- What was aborted is that on which a worker was stopped. -/
  cutOff : c.cutOff.map Prod.snd = c.pool.aborted

namespace Balanced

variable {c : Chronicle ρ} {pool : ReportPool (Handed ρ)} {e : Event (Handed ρ)}

theorem start (workers capacity : Nat) : (start workers capacity : Chronicle ρ).Balanced where
  numbered := rfl
  handedIn _ := rfl
  accepted := rfl
  begun h := by
    have hnone : (ReportPool.start workers capacity : ReportPool (Handed ρ)).inHand = [] :=
      List.flatMap_eq_nil_iff.2 fun s hs => by rw [(List.mem_replicate.1 hs).2]; rfl
    show 0 = List.count h (ReportPool.start workers capacity).inHand + 0
    rw [hnone]
    rfl
  returned := rfl
  cutOff := rfl

/-- The numbers go on with the report that is handed in. -/
theorem numbered_note (h : c.Balanced)
    (hnumber : ∀ r ∈ e.report?, r.number = c.handedIn.length) :
    (c.note e pool).handedIn.map (·.number) = List.range (c.note e pool).handedIn.length := by
  show (c.handedIn ++ e.report?.toList).map (·.number)
    = List.range (c.handedIn ++ e.report?.toList).length
  cases hr : e.report? with
  | none => simpa using h.numbered
  | some r =>
    rw [Option.toList_some, List.map_append, List.length_append, h.numbered,
      List.length_singleton, List.range_succ, List.map_singleton, hnumber r hr]

/-- A step after which the same reports were accepted and taken, and came to the same
ends. -/
theorem of_same (h : c.Balanced) (hnumber : ∀ r ∈ e.report?, r.number = c.handedIn.length)
    (hhanded : ∀ x, (c.handedIn ++ e.report?.toList).count x
      = pool.refused.count x + pool.waiting.count x + pool.accepted.count x)
    (hquiet : c.pool.begins e = [] ∧ c.pool.returns e = [] ∧ c.pool.cutsOff e = [])
    (haccepted : pool.accepted = c.pool.accepted)
    (hqueued : pool.queue ++ pool.left = c.pool.queue ++ c.pool.left)
    (hhand : ∀ x, pool.inHand.count x = c.pool.inHand.count x)
    (hends : pool.completed = c.pool.completed ∧ pool.aborted = c.pool.aborted
      ∧ pool.lost = c.pool.lost) : (c.note e pool).Balanced := by
  obtain ⟨hbegins, hreturns, hcuts⟩ := hquiet
  obtain ⟨hcompleted, haborted, hlost⟩ := hends
  refine ⟨h.numbered_note hnumber, hhanded, ?_, fun x => ?_, ?_, ?_⟩
  · show pool.accepted = (c.begun ++ c.pool.begins e).map Prod.snd ++ (pool.queue ++ pool.left)
    rw [hbegins, List.append_nil, haccepted, hqueued]
    exact h.accepted
  · show ((c.begun ++ c.pool.begins e).map Prod.snd).count x = pool.inHand.count x
      + (pool.completed.count x + pool.aborted.count x + pool.lost.count x)
    rw [hbegins, List.append_nil, hhand, hcompleted, haborted, hlost]
    exact h.begun x
  · show (c.returned ++ c.pool.returns e).map Prod.snd = pool.completed
    rw [hreturns, List.append_nil, hcompleted]
    exact h.returned
  · show (c.cutOff ++ c.pool.cutsOff e).map Prod.snd = pool.aborted
    rw [hcuts, List.append_nil, haborted]
    exact h.cutOff

/-- **A worker goes on to another stage**, and what it had in hand before comes to one of
its ends. -/
theorem of_worker (h : c.Balanced) {w : Nat} {stage stage' : SaverStage (Handed ρ)}
    (hw : c.pool.workers[w]? = some stage) (hreport : e.report? = none)
    (hsame : pool.refused = c.pool.refused ∧ pool.waiting = c.pool.waiting
      ∧ pool.accepted = c.pool.accepted)
    (haccepted : (c.pool.begins e).map Prod.snd ++ (pool.queue ++ pool.left)
      = c.pool.queue ++ c.pool.left)
    (hset : pool.workers = c.pool.workers.set w stage') {done stopped broken : List (Handed ρ)}
    (hcompleted : pool.completed = c.pool.completed ++ done)
    (haborted : pool.aborted = c.pool.aborted ++ stopped)
    (hlost : pool.lost = c.pool.lost ++ broken)
    (hhand : ∀ x, ((c.pool.begins e).map Prod.snd).count x + stage.inHand.count x
      = stage'.inHand.count x + (done.count x + stopped.count x + broken.count x))
    (hdone : (c.pool.returns e).map Prod.snd = done)
    (hstopped : (c.pool.cutsOff e).map Prod.snd = stopped) : (c.note e pool).Balanced := by
  obtain ⟨hrefused, hwaiting, htaken⟩ := hsame
  refine ⟨h.numbered_note fun r hr => ?_, fun x => ?_, ?_, fun x => ?_, ?_, ?_⟩
  · rw [hreport] at hr
    cases hr
  · show (c.handedIn ++ e.report?.toList).count x
      = pool.refused.count x + pool.waiting.count x + pool.accepted.count x
    rw [hreport, Option.toList_none, List.append_nil, hrefused, hwaiting, htaken]
    exact h.handedIn x
  · show pool.accepted = (c.begun ++ c.pool.begins e).map Prod.snd ++ (pool.queue ++ pool.left)
    rw [List.map_append, List.append_assoc, haccepted, htaken]
    exact h.accepted
  · have hmoved := count_inHand_set hw stage' x
    have hbefore := h.begun x
    have hboth := hhand x
    show ((c.begun ++ c.pool.begins e).map Prod.snd).count x
      = (pool.workers.flatMap SaverStage.inHand).count x
        + (pool.completed.count x + pool.aborted.count x + pool.lost.count x)
    rw [hset, hcompleted, haborted, hlost, List.map_append]
    simp only [List.count_append]
    simp only [calls, inHand] at hbefore
    omega
  · show (c.returned ++ c.pool.returns e).map Prod.snd = pool.completed
    rw [List.map_append, h.returned, hdone, hcompleted]
  · show (c.cutOff ++ c.pool.cutsOff e).map Prod.snd = pool.aborted
    rw [List.map_append, h.cutOff, hstopped, haborted]

/-- **Every step keeps the books balanced.** -/
theorem step (h : c.Balanced) (ho : c.pool.Orderly)
    (hnumber : ∀ r ∈ e.report?, r.number = c.handedIn.length) (hs : c.pool.Step e pool) :
    (c.note e pool).Balanced := by
  have hhanded := h.handedIn
  have hnobody : ∀ x, (c.handedIn ++ []).count x
      = c.pool.refused.count x + c.pool.waiting.count x + c.pool.accepted.count x := by
    intro x
    rw [List.append_nil]
    exact hhanded x
  cases hs with
  | @turnedDown r _ _ =>
    refine h.of_same hnumber (fun x => ?_) ⟨rfl, rfl, rfl⟩ rfl rfl (fun _ => rfl) ⟨rfl, rfl, rfl⟩
    simp only [Event.report?, Option.toList_some, List.count_append, hhanded x]
    omega
  | @handedIn r _ _ =>
    refine h.of_same hnumber (fun x => ?_) ⟨rfl, rfl, rfl⟩ rfl rfl (fun _ => rfl) ⟨rfl, rfl, rfl⟩
    simp only [Event.report?, Option.toList_some, List.count_append, hhanded x]
    omega
  | @entered n r hr hopen hroom =>
    have hleft := ho.left (report?_of_isClosed hopen)
    refine ⟨h.numbered_note hnumber, fun x => ?_, ?_, fun x => ?_, ?_, ?_⟩
    · have hmoved := count_eraseIdx hr x
      simp only [note, Event.report?, Option.toList_none, List.append_nil, List.count_append,
        hhanded x]
      omega
    · have haccepted := h.accepted
      rw [hleft, List.append_nil] at haccepted
      show c.pool.accepted ++ [r]
        = (c.begun ++ []).map Prod.snd ++ (c.pool.queue ++ [r] ++ c.pool.left)
      rw [hleft, haccepted, List.append_nil, List.append_nil, List.append_assoc]
    · show ((c.begun ++ []).map Prod.snd).count x = _
      rw [List.append_nil]
      exact h.begun x
    · show (c.returned ++ []).map Prod.snd = c.pool.completed
      rw [List.append_nil, h.returned]
    · show (c.cutOff ++ []).map Prod.snd = c.pool.aborted
      rw [List.append_nil, h.cutOff]
  | @sentAway n r hr _ =>
    refine h.of_same hnumber (fun x => ?_) ⟨rfl, rfl, rfl⟩ rfl rfl (fun _ => rfl) ⟨rfl, rfl, rfl⟩
    have hmoved := count_eraseIdx hr x
    simp only [Event.report?, Option.toList_none, List.append_nil, List.count_append, hhanded x]
    omega
  | @took w d r rest hw hqueue =>
    have hbegins : c.pool.begins (.take w) = [(w, r)] := by
      unfold begins
      rw [hqueue]
      rfl
    refine h.of_worker hw rfl ⟨rfl, rfl, rfl⟩ ?_ rfl (List.append_nil _).symm
      (List.append_nil _).symm (List.append_nil _).symm (fun x => ?_) rfl rfl
    · rw [hbegins, hqueue]
      rfl
    · rw [hbegins, inHand_next]
      rfl
  | noticed hw _ =>
    exact h.of_worker hw rfl ⟨rfl, rfl, rfl⟩ rfl rfl (List.append_nil _).symm
      (List.append_nil _).symm (List.append_nil _).symm (fun _ => rfl) rfl rfl
  | @ended w d saved r hw =>
    refine h.of_worker hw rfl ⟨rfl, rfl, rfl⟩ rfl rfl rfl (List.append_nil _).symm
      (List.append_nil _).symm (fun x => ?_) ?_ rfl
    · rw [inHand_next]
      rfl
    · simp only [ReportPool.returns, handOf, hw]
      rfl
  | @brokeDown w d r hw =>
    refine h.of_worker hw rfl ⟨rfl, rfl, rfl⟩ rfl rfl (List.append_nil _).symm
      (List.append_nil _).symm rfl (fun x => ?_) rfl rfl
    simp [SaverStage.inHand, begins]
  | retired hw _ =>
    exact h.of_worker hw rfl ⟨rfl, rfl, rfl⟩ rfl rfl (List.append_nil _).symm
      (List.append_nil _).symm (List.append_nil _).symm (fun _ => rfl) rfl rfl
  | @stopped w stage _ hw _ =>
    refine h.of_worker hw rfl ⟨rfl, rfl, rfl⟩ rfl rfl (List.append_nil _).symm rfl
      (List.append_nil _).symm (fun x => ?_) rfl ?_
    · simp [SaverStage.inHand, begins]
    · simp only [cutsOff, handOf, hw, Option.elim_some, List.map_map]
      exact List.map_id _
  | concluded late hstage _ =>
    have hleft := ho.left (by unfold report?; rw [hstage]; cases late <;> rfl)
    refine h.of_same hnumber hnobody ⟨rfl, rfl, rfl⟩ rfl ?_ (fun _ => rfl) ⟨rfl, rfl, rfl⟩
    rw [hleft, List.append_nil]
    rfl
  | _ =>
    exact h.of_same hnumber hnobody ⟨rfl, rfl, rfl⟩ rfl rfl (fun _ => rfl) ⟨rfl, rfl, rfl⟩

end Balanced

/-! ## Runs -/

/-- **What is true however a pool is used from its start.** -/
structure Kept (workers capacity : Nat) (c : Chronicle ρ) : Prop where
  /-- It is orderly. -/
  orderly : c.pool.Orderly
  /-- Its books balance. -/
  balanced : c.Balanced
  /-- Each worker was stopped once at most. -/
  stopped : c.Stopped
  /-- It has the workers it was given. -/
  workers : c.pool.workers.length = max workers 1
  /-- It has the room it was given. -/
  capacity : c.pool.capacity = max capacity 1

variable {workers capacity : Nat} {c : Chronicle ρ}

variable (ρ workers capacity) in
theorem Kept.start : (start workers capacity : Chronicle ρ).Kept workers capacity where
  orderly := .start workers capacity
  balanced := .start workers capacity
  stopped := ⟨fun _ hx => (by cases hx), List.nodup_nil⟩
  workers := List.length_replicate
  capacity := rfl

theorem Kept.step (h : c.Kept workers capacity) {e : Event ρ} {pool : ReportPool (Handed ρ)}
    (hs : c.pool.Step (e.map (Handed.mk c.handedIn.length)) pool) :
    (c.note (e.map (Handed.mk c.handedIn.length)) pool).Kept workers capacity := by
  have hnumber : ∀ r ∈ (e.map (Handed.mk c.handedIn.length)).report?,
      r.number = c.handedIn.length := by
    intro r hr
    rw [Event.report?_map] at hr
    obtain ⟨_, -, rfl⟩ := Option.map_eq_some_iff.1 hr
    rfl
  obtain ⟨hworkers, hcapacity⟩ := size_step hs
  exact ⟨h.orderly.step hs, h.balanced.step h.orderly hnumber hs, h.stopped.step hs,
    hworkers.trans h.workers, hcapacity.trans h.capacity⟩

theorem Kept.run (h : c.Kept workers capacity) (es : List (Event ρ)) :
    (c.run es).Kept workers capacity :=
  run_preserves es (fun _ _ _ _ hs h => h.step hs) h

end Chronicle

end CourierDispatch.ReportPool
