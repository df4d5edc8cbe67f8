import CourierDispatch.Proofs.Courier.LockExclusion
import Mathlib.Data.List.Induction

/-!
# The steps of locks

`KeyedLock.step?` computes; this module says once what a step can be (`KeyedLock.Step`), with
everything that the step went by. A step is taken by one task and at one key, and it concerns
nothing else: the other tasks stay where they are (`visits_step`), and so do those at other keys
and the entries of other keys (`Step.elsewhere`).
-/

namespace CourierDispatch.KeyedLock

variable {κ τ : Type} [DecidableEq κ] [DecidableEq τ]

/-- **What a step of a task can be.** -/
inductive Step (l : KeyedLock κ τ) : Event κ τ → KeyedLock κ τ → Prop where
  /-- A task without dealings takes the mutex of a key in hand. -/
  | asked {t : τ} (k : κ) (hnew : l.visits.get? t = none) : Step l (.ask t k) (l.ask t k)
  /-- It acquires the mutex, which nobody holds. -/
  | acquired {t : τ} {k : κ} {m : Nat} (hv : l.visits.get? t = some ⟨k, m, .waiting⟩)
      (hfree : l.isHeld m = false) : Step l (.acquire t) (l.moveTo .holding t ⟨k, m, .waiting⟩)
  /-- It is cancelled while it waits. -/
  | cancelled {t : τ} {k : κ} {m : Nat} (hv : l.visits.get? t = some ⟨k, m, .waiting⟩) :
      Step l (.cancel t) (l.forget t)
  /-- It releases the mutex. -/
  | released {t : τ} {k : κ} {m : Nat} (hv : l.visits.get? t = some ⟨k, m, .holding⟩) :
      Step l (.release t) (l.moveTo .released t ⟨k, m, .holding⟩)
  /-- It drops its reference to the mutex. -/
  | dropped {t : τ} {k : κ} {m : Nat} (hv : l.visits.get? t = some ⟨k, m, .released⟩) :
      Step l (.drop t) (l.moveTo .dropped t ⟨k, m, .released⟩)
  /-- It looks after the entry of its key, and is done. -/
  | swept {t : τ} {k : κ} {m : Nat} (hv : l.visits.get? t = some ⟨k, m, .dropped⟩) :
      Step l (.sweep t) ((l.forget t).sweepKey k)

variable {l l' : KeyedLock κ τ} {e : Event κ τ} {t : τ} {k : κ} {v : LockVisit κ}

/-- **Every step is of one of these kinds**, and each of them can be taken. -/
theorem step?_eq_some_iff : l.step? e = some l' ↔ l.Step e l' := by
  constructor
  · intro hs
    cases e with
    | ask t k =>
      simp only [step?] at hs
      split at hs
      · cases hs
      · next hnew =>
        obtain rfl := Option.some.inj hs
        exact .asked k (by simpa [Table.contains] using hnew)
    | acquire t =>
      rcases hv : l.visits.get? t with _ | ⟨k, m, stage⟩
      · simp [step?, hv] at hs
      · simp only [step?, hv, Option.ite_none_right_eq_some, Option.some.injEq] at hs
        obtain ⟨⟨rfl, hfree⟩, rfl⟩ := hs
        exact .acquired hv hfree
    | cancel t =>
      rcases hv : l.visits.get? t with _ | ⟨k, m, stage⟩
      · simp [step?, hv] at hs
      · simp only [step?, hv, Option.ite_none_right_eq_some, Option.some.injEq] at hs
        obtain ⟨rfl, rfl⟩ := hs
        exact .cancelled hv
    | release t =>
      rcases hv : l.visits.get? t with _ | ⟨k, m, stage⟩
      · simp [step?, hv] at hs
      · simp only [step?, hv, Option.ite_none_right_eq_some, Option.some.injEq] at hs
        obtain ⟨rfl, rfl⟩ := hs
        exact .released hv
    | drop t =>
      rcases hv : l.visits.get? t with _ | ⟨k, m, stage⟩
      · simp [step?, hv] at hs
      · simp only [step?, hv, Option.ite_none_right_eq_some, Option.some.injEq] at hs
        obtain ⟨rfl, rfl⟩ := hs
        exact .dropped hv
    | sweep t =>
      rcases hv : l.visits.get? t with _ | ⟨k, m, stage⟩
      · simp [step?, hv] at hs
      · simp only [step?, hv, Option.ite_none_right_eq_some, Option.some.injEq] at hs
        obtain ⟨rfl, rfl⟩ := hs
        exact .swept hv
  · intro hs
    cases hs with
    | asked k hnew => simp [step?, Table.contains, hnew]
    | acquired hv hfree => simp [step?, hv, hfree]
    | cancelled hv => simp [step?, hv]
    | released hv => simp [step?, hv]
    | dropped hv => simp [step?, hv]
    | swept hv => simp [step?, hv]

/-! ## What the operations change -/

omit [DecidableEq κ] in
@[simp]
theorem get?_visits_forget (l : KeyedLock κ τ) (t t' : τ) :
    (l.forget t).visits.get? t' = if t' = t then none else l.visits.get? t' :=
  Table.get?_erase ..

omit [DecidableEq κ] in
@[simp]
theorem get?_visits_moveTo (l : KeyedLock κ τ) (stage : LockStage) (t t' : τ) (v : LockVisit κ) :
    (l.moveTo stage t v).visits.get? t'
      = if t' = t then some { v with stage } else l.visits.get? t' :=
  Table.get?_put ..

omit [DecidableEq τ] in
@[simp]
theorem visits_sweepKey (l : KeyedLock κ τ) (k : κ) : (l.sweepKey k).visits = l.visits := by
  unfold sweepKey
  split
  · split <;> rfl
  · rfl

omit [DecidableEq τ] in
theorem get?_mutexes_sweepKey_of_ne (l : KeyedLock κ τ) {k k' : κ} (h : k' ≠ k) :
    (l.sweepKey k).mutexes.get? k' = l.mutexes.get? k' := by
  unfold sweepKey
  split
  · split
    · rfl
    · exact Table.get?_erase_of_ne _ h
  · rfl

theorem get?_mutexes_ask_of_ne (l : KeyedLock κ τ) (t : τ) {k k' : κ} (h : k' ≠ k) :
    (l.ask t k).mutexes.get? k' = l.mutexes.get? k' := by
  unfold ask
  split
  · rfl
  · exact Table.get?_put_of_ne _ h _

/-! ## The key of a step -/

/-- **The key at which a task takes a step.** -/
def Event.key? (l : KeyedLock κ τ) : Event κ τ → Option κ
  | ask _ key => some key
  | e => (l.visits.get? e.task).map (·.key)

/-- A step is taken at the key at which the task has been … -/
theorem Step.key_of_before (hs : l.Step e l') (hv : l.visits.get? e.task = some v) :
    e.key? l = some v.key := by
  cases hs with
  | asked k hnew => cases hnew.symm.trans hv
  | _ => exact congrArg (Option.map LockVisit.key) hv

/-- … and at which it is then. -/
theorem Step.key_of_after (hs : l.Step e l') (hv : l'.visits.get? e.task = some v) :
    e.key? l = some v.key := by
  cases hs with
  | @asked t k hnew =>
    obtain ⟨m, hm⟩ := waiting_of_ask (step?_eq_some_iff.2 (.asked k hnew))
    obtain rfl := Option.some.inj (hm.symm.trans hv)
    rfl
  | cancelled _ | swept _ => simp [Event.task] at hv
  | acquired hv' | released hv' | dropped hv' =>
    simp only [Event.task, get?_visits_moveTo, if_true, Option.some.injEq] at hv
    simp [Event.key?, Event.task, hv', ← hv]

/-- A step leaves the entries of other keys as they are. -/
theorem Step.mutexes_of_ne (hs : l.Step e l') (hk : e.key? l ≠ some k) :
    l'.mutexes.get? k = l.mutexes.get? k := by
  cases hs with
  | asked k' _ => exact get?_mutexes_ask_of_ne _ _ fun heq => hk (congrArg some heq.symm)
  | swept hv =>
    refine get?_mutexes_sweepKey_of_ne _ fun heq => hk ?_
    simp [Event.key?, Event.task, hv, heq]
  | _ => rfl

/-- **Steps at other keys change nothing at a key**: neither its entry nor who is at it. -/
theorem Step.elsewhere (hs : l.Step e l') (hk : e.key? l ≠ some k) :
    l'.mutexes.get? k = l.mutexes.get? k
      ∧ ∀ t v, v.key = k → (l'.visits.get? t = some v ↔ l.visits.get? t = some v) := by
  refine ⟨hs.mutexes_of_ne hk, fun t v hv => ?_⟩
  by_cases ht : t = e.task
  · subst ht
    exact iff_of_false (fun h => hk (hv ▸ hs.key_of_after h)) fun h => hk (hv ▸ hs.key_of_before h)
  · rw [visits_step (step?_eq_some_iff.2 hs) ht]

/-! ## Runs -/

/-- Running on from where a run ended. -/
theorem run_append (es₁ es₂ : List (Event κ τ)) (l : KeyedLock κ τ) :
    l.run (es₁ ++ es₂) = (l.run es₁).run es₂ :=
  List.foldl_append

/-- A run and one more step, which is passed over if it cannot be taken. -/
theorem run_concat (events : List (Event κ τ)) (e : Event κ τ) (l : KeyedLock κ τ) :
    l.run (events ++ [e]) = ((l.run events).step? e).getD (l.run events) :=
  run_append _ _ _

/-- **What every step keeps every run keeps.** -/
theorem run_induction {P : List (Event κ τ) → KeyedLock κ τ → Prop} (hstart : P [] l)
    (hstep : ∀ pre e, P pre (l.run pre) → (l.run pre).Step e (l.run (pre ++ [e])) →
      P (pre ++ [e]) (l.run (pre ++ [e])))
    (hskip : ∀ pre e, P pre (l.run pre) → l.run (pre ++ [e]) = l.run pre →
      P (pre ++ [e]) (l.run (pre ++ [e])))
    (events : List (Event κ τ)) : P events (l.run events) := by
  induction events using List.reverseRecOn with
  | nil => exact hstart
  | append_singleton pre e ih =>
    cases hs : (l.run pre).step? e with
    | none =>
      refine hskip pre e ih ?_
      rw [run_concat, hs, Option.getD_none]
    | some l' =>
      refine hstep pre e ih (step?_eq_some_iff.1 ?_)
      rw [run_concat, hs, Option.getD_some]

/-- **Along every run the locks are sound.** -/
theorem Sound.run (h : l.Sound) (events : List (Event κ τ)) : (l.run events).Sound :=
  run_induction (P := fun _ l => l.Sound) h
    (fun _ _ ih hs => ih.step (step?_eq_some_iff.2 hs)) (fun _ _ ih heq => heq ▸ ih) events

end CourierDispatch.KeyedLock
