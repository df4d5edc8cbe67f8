import CourierDispatch.Proofs.Location.Conservation

/-!
# Draining

A report that was let into the queue before the pool was told to close is saved before
shutting down is over, unless the time for the workers runs out. For a worker ends by
itself only after it has seen the queue empty, and by then everything that had been let
in before was taken (`Chronicle.Drained`). While the pool is not closing no worker ends at
all, but when no producer is left and nothing is queued (`Open`).

Whether saving works is noted in the pool and read by nobody: two runs that differ in
that only are the same but for what was noted (`run_forget`). And any one worker can empty
the queue alone, though saving fails each time (`exists_drains`).
-/

namespace CourierDispatch.ReportPool

variable {ρ : Type}

/-! ## Before closing -/

/-- A worker that waits for reports, or saves one and will wait again. -/
def AtWork (s : SaverStage ρ) : Prop := s = .idle ∨ ∃ r, s = .saving false r

/-- **What is true until a pool is closing.** -/
structure Open (p : ReportPool ρ) : Prop where
  /-- All workers are at work, unless there is nothing to wait for. -/
  atWork : p.closing = false →
    (∀ s ∈ p.workers, AtWork s) ∨ (p.producersGone = true ∧ p.queue = [])
  /-- Producers that are gone do not wait. -/
  gone : p.producersGone = true → p.waiting = []

namespace Open

variable {p p' : ReportPool ρ} {e : Event ρ}

theorem start (workers capacity : Nat) : (start workers capacity : ReportPool ρ).Open :=
  ⟨fun _ => .inl fun _ hs => .inl (List.mem_replicate.1 hs).2, fun _ => rfl⟩

/-- Workers of whom one goes on to a stage at which it is at work. -/
theorem atWork_set {workers : List (SaverStage ρ)} {w : Nat} {stage : SaverStage ρ}
    (h : ∀ s ∈ workers, AtWork s) (hstage : AtWork stage) :
    ∀ s ∈ workers.set w stage, AtWork s := by
  intro s hs
  rcases List.mem_or_eq_of_mem_set hs with hold | rfl
  · exact h s hold
  · exact hstage

/-- **Every step but a worker's breaking down keeps this so.** -/
theorem step (h : p.Open) (ho : p.Orderly) (hsound : ∀ w, e ≠ .breakDown w) (hs : p.Step e p') :
    p'.Open := by
  cases hs with
  | turnedDown _ _ => exact ⟨h.atWork, h.gone⟩
  | handedIn hthere _ =>
    refine ⟨h.atWork, fun hgone => ?_⟩
    cases hthere.symm.trans hgone
  | @entered n r hr _ _ =>
    refine ⟨fun hopen => ?_, fun hgone => ?_⟩
    · rcases h.atWork hopen with hall | ⟨hgone, -⟩
      · exact .inl hall
      · rw [h.gone hgone] at hr
        cases hr
    · rw [h.gone hgone] at hr
      cases hr
  | sentAway hr hclosing =>
    refine ⟨fun hopen => ?_, fun hgone => ?_⟩
    · cases hclosing.symm.trans hopen
    · rw [h.gone hgone] at hr
      cases hr
  | @took w d r rest hw hqueue =>
    refine ⟨fun hopen => ?_, h.gone⟩
    rcases h.atWork hopen with hall | ⟨-, hempty⟩
    · refine .inl (atWork_set hall (.inr ?_))
      rcases hall _ (List.mem_of_getElem? hw) with hidle | ⟨_, hsaving⟩
      · cases d with
        | false => exact ⟨r, rfl⟩
        | true => cases hidle
      · cases d <;> cases hsaving
    · cases hqueue.symm.trans hempty
  | noticed _ hwhy =>
    refine ⟨fun hopen => ?_, h.gone⟩
    rcases hwhy with hclosing | hnothing
    · cases hclosing.symm.trans hopen
    · exact .inr hnothing
  | @ended w d saved r hw =>
    refine ⟨fun hopen => (h.atWork hopen).imp_left fun hall => atWork_set hall (.inl ?_), h.gone⟩
    rcases hall _ (List.mem_of_getElem? hw) with hidle | ⟨_, hsaving⟩
    · cases hidle
    · cases hsaving
      rfl
  | brokeDown _ => exact absurd rfl (hsound _)
  | retired hw hqueue =>
    refine ⟨fun hopen => ?_, h.gone⟩
    rcases h.atWork hopen with hall | hnothing
    · rcases hall _ (List.mem_of_getElem? hw) with hidle | ⟨_, hsaving⟩
      · cases hidle
      · cases hsaving
    · exact .inr hnothing
  | leaving hnone =>
    exact ⟨fun hopen => (h.atWork hopen).imp_right fun hnothing => ⟨rfl, hnothing.2⟩,
      fun _ => hnone⟩
  | cancelled => exact ⟨fun hopen => (by cases hopen), h.gone⟩
  | asked _ => exact ⟨fun hopen => (by cases hopen), h.gone⟩
  | closed _ => exact ⟨h.atWork, h.gone⟩
  | timedOut _ => exact ⟨h.atWork, h.gone⟩
  | stopped hstage _ _ =>
    have hclosing := ho.closing (by rw [hstage]; rintro ⟨⟩)
    exact ⟨fun hopen => (by cases hclosing.symm.trans hopen), h.gone⟩
  | concluded late hstage _ =>
    have hclosing := ho.closing (by rw [hstage]; cases late <;> rintro ⟨⟩)
    exact ⟨fun hopen => (by cases hclosing.symm.trans hopen), h.gone⟩

end Open

/-! ## Draining in time -/

/-- The time for the workers is not over. -/
def InTime (p : ReportPool ρ) : Prop := p.shutdown ≠ .stopping ∧ ∀ n, p.shutdown ≠ .over ⟨n, true⟩

/-- Time that is over does not come back. -/
theorem inTime_of_step {p p' : ReportPool ρ} {e : Event ρ} (hs : p.Step e p') (h : p'.InTime) :
    p.InTime := by
  cases hs with
  | asked hstage => exact ⟨by rw [hstage]; rintro ⟨⟩, fun _ => by rw [hstage]; rintro ⟨⟩⟩
  | closed hstage => exact ⟨by rw [hstage]; rintro ⟨⟩, fun _ => by rw [hstage]; rintro ⟨⟩⟩
  | timedOut hstage => exact absurd rfl h.1
  | concluded late hstage _ =>
    cases late with
    | true => exact absurd rfl (h.2 _)
    | false => exact ⟨by rw [hstage]; rintro ⟨⟩, fun _ => by rw [hstage]; rintro ⟨⟩⟩
  | _ => exact h

/-- Accepted reports are kept, in their order. -/
theorem accepted_step {p p' : ReportPool ρ} {e : Event ρ} (hs : p.Step e p') :
    p.accepted <+: p'.accepted := by
  cases hs with
  | entered _ _ _ => exact List.prefix_append _ _
  | _ => exact List.prefix_refl _

/-- **A worker ends by itself only when nothing is queued.** -/
theorem ended_of_step {p p' : ReportPool ρ} {e : Event ρ} (ho : p.Orderly) (hs : p.Step e p')
    (hsound : ∀ w, e ≠ .breakDown w) (hintime : p.InTime) (hended : .ended ∈ p'.workers) :
    .ended ∈ p.workers ∨ (p.queue = [] ∧ p.left = []) := by
  have hset {w : Nat} {stage : SaverStage ρ} (hlive : stage.isEnded = false)
      (h : .ended ∈ p.workers.set w stage) : .ended ∈ p.workers := by
    rcases List.mem_or_eq_of_mem_set h with hold | rfl
    · exact hold
    · cases hlive
  cases hs with
  | took _ _ => exact .inl (hset rfl hended)
  | noticed _ _ => exact .inl (hset rfl hended)
  | @ended _ d _ _ _ => exact .inl (hset (by cases d <;> rfl) hended)
  | brokeDown _ => exact absurd rfl (hsound _)
  | retired hw hqueue => exact .inr ⟨hqueue, ho.left (ho.report?_of_live hw rfl)⟩
  | stopped hstage _ _ => exact absurd hstage hintime.1
  | _ => exact .inl hended

namespace Chronicle

variable [DecidableEq ρ] {workers capacity k : Nat} {c : Chronicle ρ}

/-- **The first reports that were accepted are drained**: where a worker has ended in time,
they had been taken. -/
structure Drained (k : Nat) (c : Chronicle ρ) : Prop where
  /-- They were accepted. -/
  accepted : k ≤ c.pool.accepted.length
  /-- They were taken, if a worker has ended in time. -/
  taken : c.pool.InTime → .ended ∈ c.pool.workers → k ≤ c.begun.length

/-- What is accepted was taken when nothing is queued. -/
theorem Balanced.length_begun (h : c.Balanced) (hqueue : c.pool.queue = [])
    (hleft : c.pool.left = []) : c.pool.accepted.length = c.begun.length := by
  rw [h.accepted, hqueue, hleft, List.append_nil, List.append_nil, List.length_map]

/-- **Before closing, all that has been accepted is drained**: no worker has ended yet, or
nothing is queued. -/
theorem Kept.drained (h : c.Kept workers capacity) (hopen : c.pool.Open)
    (hclosing : c.pool.closing = false) : c.Drained c.pool.accepted.length where
  accepted := Nat.le_refl _
  taken _ hended := by
    rcases hopen.atWork hclosing with hall | ⟨-, hqueue⟩
    · rcases hall _ hended with hidle | ⟨_, hsaving⟩
      · cases hidle
      · cases hsaving
    · have hstage : c.pool.shutdown = .unasked := by
        by_contra hasked
        cases hclosing.symm.trans (h.orderly.closing hasked)
      have hleft := h.orderly.left (by unfold report?; rw [hstage])
      exact Nat.le_of_eq (h.balanced.length_begun hqueue hleft)

theorem Drained.step (h : c.Drained k) (hk : c.Kept workers capacity) {e : Event (Handed ρ)}
    (hsound : ∀ w, e ≠ .breakDown w) {pool : ReportPool (Handed ρ)} (hs : c.pool.Step e pool) :
    (c.note e pool).Drained k where
  accepted := Nat.le_trans h.accepted (accepted_step hs).length_le
  taken hintime hended := by
    have hmore : c.begun.length ≤ (c.note e pool).begun.length :=
      (List.prefix_append _ _).length_le
    have hintime' := inTime_of_step hs hintime
    rcases ended_of_step hk.orderly hs hsound hintime' hended with hold | ⟨hqueue, hleft⟩
    · exact Nat.le_trans (h.taken hintime' hold) hmore
    · have hall := hk.balanced.length_begun hqueue hleft
      exact Nat.le_trans (hall ▸ h.accepted) hmore

/-- What keeps true from before closing on. -/
theorem Drained.run {es : List (Event ρ)} (hsound : ∀ e ∈ es, ∀ w, e ≠ .breakDown w)
    (h : c.Drained k) (hk : c.Kept workers capacity) : (c.run es).Drained k :=
  (run_preserves (P := fun c' => c'.Kept workers capacity ∧ c'.Drained k) es
    (fun _ he _ _ hs h =>
      ⟨h.1.step hs, h.2.step h.1 (Event.map_ne_breakDown _ (hsound _ he)) hs⟩) ⟨hk, h⟩).2

theorem Kept.run_open {es : List (Event ρ)} (hsound : ∀ e ∈ es, ∀ w, e ≠ .breakDown w)
    (hk : c.Kept workers capacity) (h : c.pool.Open) : (c.run es).pool.Open :=
  (run_preserves (P := fun c' => c'.Kept workers capacity ∧ c'.pool.Open) es
    (fun _ he _ _ hs h => ⟨h.1.step hs,
      h.2.step h.1.orderly (Event.map_ne_breakDown _ (hsound _ he)) hs⟩) ⟨hk, h⟩).2

omit [DecidableEq ρ] in
theorem accepted_grows (es : List (Event ρ)) (c : Chronicle ρ) :
    c.pool.accepted <+: (c.run es).pool.accepted :=
  run_preserves (P := fun c' => c.pool.accepted <+: c'.pool.accepted) es
    (fun _ _ _ _ hs h => h.trans (accepted_step hs)) (List.prefix_refl _)

/-- **What was drained in time is completed.** -/
theorem Kept.mem_completed {n : Nat} (h : c.Kept workers capacity) (hd : c.Drained k)
    (hlost : c.pool.lost = []) (hover : c.pool.report? = some ⟨n, false⟩) {x : Handed ρ}
    (hx : x ∈ c.pool.accepted.take k) : x ∈ c.pool.completed := by
  have hstage := report?_eq_some.1 hover
  have hintime : c.pool.InTime := by
    rw [InTime, hstage]
    exact ⟨by rintro ⟨⟩, by rintro _ ⟨⟩⟩
  obtain ⟨hall, hqueue, -⟩ := h.orderly.whenOver _ hover
  have hended : .ended ∈ c.pool.workers := by
    obtain ⟨s, hs⟩ := List.exists_mem_of_length_pos
      (show 0 < c.pool.workers.length by rw [h.workers]; omega)
    have hend := List.all_eq_true.1 hall s hs
    cases s with
    | ended => exact hs
    | _ => cases hend
  have hbegun : x ∈ c.begun.map Prod.snd := by
    rw [h.balanced.accepted, List.take_append_of_le_length] at hx
    · exact List.mem_of_mem_take hx
    · rw [List.length_map]
      exact hd.taken hintime hended
  -- what was begun has ended, and neither broke down nor was stopped
  have hcount := h.balanced.begun x
  have hpos : 0 < c.calls x := List.count_pos_iff.2 hbegun
  rw [inHand_of_allEnded hall, (h.accounted hover).inTime rfl, hlost] at hcount
  simp only [List.count_nil, Nat.add_zero, Nat.zero_add] at hcount
  exact List.count_pos_iff.1 (hcount ▸ hpos)

end Chronicle

/-! ## Saving that fails -/

/-- A step in which saving works, if it comes to its end. -/
def Event.succeed : Event ρ → Event ρ
  | .complete w _ => .complete w true
  | e => e

theorem Event.succeed_map {ρ' : Type} (f : ρ → ρ') (e : Event ρ) :
    (e.map f).succeed = e.succeed.map f := by
  cases e <;> rfl

/-- A pool without what was noted of the saving that failed. -/
def forget (p : ReportPool ρ) : ReportPool ρ := { p with failed := [] }

/-- **Nothing but what is noted of it depends on whether saving works.** -/
theorem step?_forget (p : ReportPool ρ) (e : Event ρ) :
    (p.forget.step? e.succeed).map forget = (p.step? e).map forget := by
  cases e with
  | complete w saved =>
    simp only [Event.succeed, step?, complete?, forget]
    split <;> rfl
  | submit r =>
    simp only [Event.succeed, step?, submit?, forget]
    split
    · rfl
    · split <;> rfl
  | enter n =>
    have hwaiting : p.forget.waiting[n]? = p.waiting[n]? := rfl
    simp only [Event.succeed, step?, enter?, hwaiting]
    cases p.waiting[n]? with
    | none => rfl
    | some r =>
      by_cases hroom : p.isClosed = false ∧ p.queue.length < p.capacity
      · have hroom' : p.forget.isClosed = false ∧ p.forget.queue.length < p.forget.capacity := hroom
        simp only [if_pos hroom, if_pos hroom']
        rfl
      · have hroom' : ¬(p.forget.isClosed = false ∧ p.forget.queue.length < p.forget.capacity) :=
          hroom
        simp only [if_neg hroom, if_neg hroom']
  | refuse n =>
    simp only [Event.succeed, step?, refuse?, forget]
    split
    · split <;> rfl
    · rfl
  | take w =>
    simp only [Event.succeed, step?, take?, forget]
    split <;> rfl
  | notice w =>
    simp only [Event.succeed, step?, notice?, forget]
    split
    · split <;> rfl
    · rfl
  | breakDown w =>
    simp only [Event.succeed, step?, breakDown?, forget]
    split <;> rfl
  | retire w =>
    simp only [Event.succeed, step?, retire?, forget]
    split <;> rfl
  | leave =>
    simp only [Event.succeed, step?, leave?, forget]
    split <;> rfl
  | cancel => rfl
  | shutDown =>
    simp only [Event.succeed, step?, forget]
    split <;> rfl
  | closeQueue =>
    simp only [Event.succeed, step?, forget]
    split <;> rfl
  | timeOut =>
    simp only [Event.succeed, step?, forget]
    split <;> rfl
  | abort w =>
    simp only [Event.succeed, step?, abort?, forget]
    split
    · split <;> rfl
    · rfl
  | conclude =>
    have hended : p.forget.allEnded = p.allEnded := rfl
    have hstage : p.forget.shutdown = p.shutdown := rfl
    simp only [Event.succeed, step?, conclude?, hended, hstage]
    cases p.shutdown <;> cases p.allEnded <;> rfl

/-- A step of a worker by itself, in which saving does not work. -/
def Event.FailsBy (w : Nat) (e : Event ρ) : Prop :=
  e = .take w ∨ e = .notice w ∨ e = .complete w false ∨ e = .retire w

theorem run_cons {p p' : ReportPool ρ} {e : Event ρ} (h : p.step? e = some p')
    (es : List (Event ρ)) : p.run (e :: es) = p'.run es := by
  rw [run, List.foldl_cons, h]
  rfl

/-- What a worker alone makes of a pool: it ends, and what it had in hand and all that was
queued has come to an end, in order. -/
def drainedBy (w : Nat) (hand : List ρ) (p : ReportPool ρ) : ReportPool ρ :=
  { p with
    workers := p.workers.set w .ended
    queue := []
    completed := p.completed ++ (hand ++ p.queue)
    failed := p.failed ++ (hand ++ p.queue) }

theorem getElem?_setWorker (p : ReportPool ρ) {w : Nat} {stage : SaverStage ρ}
    (stage' : SaverStage ρ) (hw : p.workers[w]? = some stage) : (p.setWorker w stage').workers[w]? = some stage' :=
  List.getElem?_set_self (List.getElem?_eq_some_iff.1 hw).1

/-- What is noted of a report whose saving failed. -/
def notSaved (r : ρ) (p : ReportPool ρ) : ReportPool ρ :=
  { p with completed := p.completed ++ [r], failed := p.failed ++ [r] }

theorem step?_take {p : ReportPool ρ} {w : Nat} {r : ρ} {rest : List ρ}
    (hw : p.workers[w]? = some .draining) (hqueue : p.queue = r :: rest) :
    p.step? (.take w) = some ({ p with queue := rest }.setWorker w (.saving true r)) := by
  simp only [step?, take?, hw, hqueue]

/-- A worker goes on when saving has failed. -/
theorem step?_complete {p : ReportPool ρ} {w : Nat} {d : Bool} {r : ρ}
    (hw : p.workers[w]? = some (.saving d r)) :
    p.step? (.complete w false) = some ((p.notSaved r).setWorker w (.next d)) := by
  simp only [step?, complete?, hw]
  rfl

theorem step?_notice {p : ReportPool ρ} {w : Nat} (hclosing : p.closing = true)
    (hw : p.workers[w]? = some .idle) : p.step? (.notice w) = some (p.setWorker w .draining) := by
  simp only [step?, notice?, hw, hclosing, Bool.true_or, if_true]

theorem step?_retire {p : ReportPool ρ} {w : Nat} (hw : p.workers[w]? = some .draining)
    (hqueue : p.queue = []) : p.step? (.retire w) = some (p.setWorker w .ended) := by
  simp only [step?, retire?, hw, hqueue]

/-- **A worker that drains the queue empties it**, though saving fails each time. -/
theorem exists_run_of_draining {w : Nat} (queue : List ρ) {p : ReportPool ρ}
    (hqueue : p.queue = queue) (hw : p.workers[w]? = some .draining) :
    ∃ es, (∀ e ∈ es, e.FailsBy w) ∧ p.run es = p.drainedBy w [] := by
  induction queue generalizing p with
  | nil =>
    refine ⟨[.retire w], by simp [Event.FailsBy], ?_⟩
    rw [run_cons (step?_retire hw hqueue)]
    simp [run, setWorker, drainedBy, hqueue]
  | cons r rest ih =>
    have hsaving := getElem?_setWorker { p with queue := rest } (.saving true r) hw
    obtain ⟨es, hes, hrun⟩ :=
      ih (p := (({ p with queue := rest }.setWorker w (.saving true r)).notSaved r).setWorker w
        (.next true)) rfl (getElem?_setWorker _ _ hsaving)
    refine ⟨.take w :: .complete w false :: es, ?_, ?_⟩
    · simpa [Event.FailsBy] using hes
    · rw [run_cons (step?_take hw hqueue), run_cons (step?_complete hsaving), hrun]
      simp [drainedBy, setWorker, notSaved, hqueue]

/-- A worker that waits sees that the pool is closing, and then drains the queue. -/
theorem exists_run_of_idle {w : Nat} {p : ReportPool ρ} (hclosing : p.closing = true)
    (hw : p.workers[w]? = some .idle) :
    ∃ es, (∀ e ∈ es, e.FailsBy w) ∧ p.run es = p.drainedBy w [] := by
  obtain ⟨es, hes, hrun⟩ := exists_run_of_draining _ rfl (getElem?_setWorker p .draining hw)
  refine ⟨.notice w :: es, ?_, ?_⟩
  · simpa [Event.FailsBy] using hes
  · rw [run_cons (step?_notice hclosing hw), hrun]
    simp [drainedBy, setWorker]

/-- **One worker alone drains a pool that is closing**: it brings its own report to an end
and all that is queued, and then ends, though saving fails each time. -/
theorem exists_drains {p : ReportPool ρ} {w : Nat} {stage : SaverStage ρ}
    (hclosing : p.closing = true) (hw : p.workers[w]? = some stage)
    (hlive : stage.isEnded = false) :
    ∃ es, (∀ e ∈ es, e.FailsBy w) ∧ p.run es = p.drainedBy w stage.inHand := by
  cases stage with
  | idle => exact exists_run_of_idle hclosing hw
  | draining => exact exists_run_of_draining _ rfl hw
  | saving d r =>
    have hnext := getElem?_setWorker (p.notSaved r) (.next d) hw
    have hrest : ∃ es, (∀ e ∈ es, e.FailsBy w)
        ∧ ((p.notSaved r).setWorker w (.next d)).run es
          = ((p.notSaved r).setWorker w (.next d)).drainedBy w [] := by
      cases d with
      | false => exact exists_run_of_idle hclosing hnext
      | true => exact exists_run_of_draining _ rfl hnext
    obtain ⟨es, hes, hrun⟩ := hrest
    refine ⟨.complete w false :: es, ?_, ?_⟩
    · simpa [Event.FailsBy] using hes
    · rw [run_cons (step?_complete hw), hrun]
      simp [drainedBy, setWorker, notSaved, SaverStage.inHand]
  | ended => cases hlive

namespace Chronicle

/-- A chronicle without what was noted of the saving that failed. -/
def forget (c : Chronicle ρ) : Chronicle ρ := { c with pool := c.pool.forget }

theorem forget_act (c : Chronicle ρ) (e : Event ρ) :
    (c.act e).forget
      = (((c.pool.step? (e.map (Handed.mk c.handedIn.length))).map ReportPool.forget).map
          (c.note (e.map (Handed.mk c.handedIn.length)))).getD c.forget := by
  unfold act
  cases c.pool.step? (e.map (Handed.mk c.handedIn.length)) <;> rfl

theorem act_forget (c : Chronicle ρ) (e : Event ρ) :
    (c.forget.act e.succeed).forget = (c.act e).forget := by
  have hnote : c.forget.note (e.succeed.map (Handed.mk c.handedIn.length))
      = c.note (e.map (Handed.mk c.handedIn.length)) := by
    cases e <;> rfl
  have hstep := step?_forget c.pool (e.map (Handed.mk c.handedIn.length))
  rw [Event.succeed_map] at hstep
  rw [forget_act, forget_act, ← hstep, ← hnote]
  rfl

/-- **Runs that differ only in whether saving worked are the same**, but for what was noted
of it. -/
theorem run_forget {es es' : List (Event ρ)} (h : es.map Event.succeed = es'.map Event.succeed)
    {c c' : Chronicle ρ} (hc : c.forget = c'.forget) : (c.run es).forget = (c'.run es').forget := by
  induction es generalizing es' c c' with
  | nil =>
    obtain rfl := List.map_eq_nil_iff.1 h.symm
    exact hc
  | cons e es ih =>
    obtain ⟨e', es', rfl, he, hes⟩ := List.map_eq_cons_iff.1 h.symm
    refine ih hes.symm ?_
    rw [← act_forget c, hc, ← he, act_forget]

variable [DecidableEq ρ]

/-- **What was accepted before closing is saved before shutting down is over**, in time and
with no worker breaking down.

Saving that fails stops neither the worker nor the others: nothing else in a run depends on
it, and any worker alone brings all that is queued to an end though saving fails each
time. -/
theorem accepted_reports_drained (workers capacity : Nat) (es : List (Event ρ)) :
    (∀ es' x n, (∀ e ∈ es ++ es', ∀ w, e ≠ .breakDown w) →
        ((start workers capacity : Chronicle ρ).run es).pool.closing = false →
        x ∈ ((start workers capacity : Chronicle ρ).run es).pool.accepted →
        ((start workers capacity : Chronicle ρ).run (es ++ es')).pool.report? = some ⟨n, false⟩ →
        x ∈ ((start workers capacity : Chronicle ρ).run (es ++ es')).pool.completed
          ∧ ((start workers capacity : Chronicle ρ).run (es ++ es')).calls x = 1
          ∧ ((start workers capacity : Chronicle ρ).run (es ++ es')).returns x = 1)
      ∧ (∀ es', es'.map Event.succeed = es.map Event.succeed →
        ((start workers capacity : Chronicle ρ).run es').forget
          = ((start workers capacity : Chronicle ρ).run es).forget)
      ∧ ∀ w stage, ((start workers capacity : Chronicle ρ).run es).pool.closing = true →
        ((start workers capacity : Chronicle ρ).run es).pool.workers[w]? = some stage →
        stage.isEnded = false →
        ∃ es', (∀ e ∈ es', e.FailsBy w)
          ∧ ((start workers capacity : Chronicle ρ).run es).pool.run es'
            = ((start workers capacity : Chronicle ρ).run es).pool.drainedBy w stage.inHand := by
  refine ⟨fun es' x n hsound hclosing hx hover => ?_, fun es' hes => run_forget hes rfl,
    fun w stage hclosing hw hlive => exists_drains hclosing hw hlive⟩
  have hkept := (Kept.start ρ workers capacity).run es
  have hopen := (Kept.start ρ workers capacity).run_open (fun e he => hsound e (List.mem_append_left es' he))
    (Open.start workers capacity)
  have hdrained := (hkept.drained hopen hclosing).run
    (fun e he => hsound e (List.mem_append_right es he)) hkept
  have hlost := lost_run (c := (start workers capacity : Chronicle ρ)) hsound
  rw [run_append] at hover hlost ⊢
  have hkept' := hkept.run es'
  have htaken := List.prefix_iff_eq_take.1 (accepted_grows es' ((start workers capacity).run es))
  have hcompleted := hkept'.mem_completed hdrained hlost hover (htaken ▸ hx)
  exact ⟨hcompleted, hkept'.balanced.calls_of_mem .completed hcompleted⟩

/-- A report that is taken after closing, and whose saving fails. -/
theorem drained_though_saving_fails :
    ((start 1 1 : Chronicle Nat).run ([.submit 7, .enter 0] ++ [.shutDown, .closeQueue, .take 0,
        .complete 0 false, .notice 0, .retire 0, .conclude])).returns ⟨0, 7⟩ = 1 :=
  ((accepted_reports_drained 1 1 [.submit 7, .enter 0]).1 _ _ 0
    (by simp) rfl (by decide) (by decide)).2.2

end Chronicle

end CourierDispatch.ReportPool
