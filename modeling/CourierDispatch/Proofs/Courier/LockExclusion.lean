import CourierDispatch.Courier.KeyedLock

/-!
# One key, one mutex, one holder

Locks by key are a table of mutexes whose entries come and go while tasks
are at work, so that two tasks at one key might end up with two mutexes and
both hold the key. This module proves that they do not.

What carries the proof is that an entry outlives every reference to its
mutex (`KeyedLock.Sound.current`): it is taken out only when nobody refers
to the mutex in it, and whoever refers to a mutex therefore still finds it
behind the key. The rest is bookkeeping – a mutex is made for one key, a new
one differs from those in the table, and a mutex has one holder.
-/

namespace CourierDispatch.KeyedLock

variable {κ τ : Type} [DecidableEq κ] [DecidableEq τ]

/-- **What is true of the locks at every moment.** -/
structure Sound (l : KeyedLock κ τ) : Prop where
  /-- Whoever refers to a mutex refers to the one behind the key. -/
  current : ∀ {t : τ} {v : LockVisit κ}, l.visits.get? t = some v → v.refers = true →
    l.mutexes.get? v.key = some v.mutex
  /-- A mutex stands behind one key. -/
  apart : ∀ {k k' : κ} {m : Nat}, l.mutexes.get? k = some m → l.mutexes.get? k' = some m → k = k'
  /-- Every mutex in the table has been made. -/
  known : ∀ {k : κ} {m : Nat}, l.mutexes.get? k = some m → m < l.made
  /-- A mutex has one holder. -/
  single : ∀ {t t' : τ} {v v' : LockVisit κ}, l.visits.get? t = some v → l.visits.get? t' = some v' →
    v.stage = .holding → v'.stage = .holding → v.mutex = v'.mutex → t = t'

/-- A task holds a key. -/
def Holds (t : τ) (k : κ) (l : KeyedLock κ τ) : Prop :=
  ∃ m, l.visits.get? t = some ⟨k, m, .holding⟩

/-- The task that takes a step. -/
def Event.task : Event κ τ → τ
  | ask task _ => task
  | acquire task => task
  | cancel task => task
  | release task => task
  | drop task => task
  | sweep task => task

/-! ## Reading the table of tasks -/

omit [DecidableEq κ] in
/-- Nobody holds a mutex exactly if no visit with it is at that stage. -/
theorem isHeld_eq_false_iff (m : Nat) (l : KeyedLock κ τ) :
    l.isHeld m = false ↔ ∀ t v, l.visits.get? t = some v → v.mutex = m → v.stage ≠ .holding := by
  unfold isHeld
  rw [List.any_eq_false]
  constructor
  · intro h t v hv hm hs
    exact h v ((Table.mem_values_iff _ _).2 ⟨t, hv⟩) (by simp [hm, hs])
  · intro h v hv hb
    obtain ⟨t, ht⟩ := (Table.mem_values_iff _ _).1 hv
    simp only [Bool.and_eq_true, decide_eq_true_eq] at hb
    exact h t v ht hb.1 hb.2

omit [DecidableEq κ] in
/-- Nobody refers to a mutex exactly if no visit does. -/
theorem isReferredTo_eq_false_iff (m : Nat) (l : KeyedLock κ τ) :
    l.isReferredTo m = false ↔ ∀ t v, l.visits.get? t = some v → v.mutex = m → v.refers = false := by
  unfold isReferredTo
  rw [List.any_eq_false]
  constructor
  · intro h t v hv hm
    have hno := h v ((Table.mem_values_iff _ _).2 ⟨t, hv⟩)
    simpa [hm] using hno
  · intro h v hv hb
    obtain ⟨t, ht⟩ := (Table.mem_values_iff _ _).1 hv
    simp only [Bool.and_eq_true, decide_eq_true_eq] at hb
    exact absurd hb.2 (by simp [h t v ht hb.1])

/-! ## The kinds of change

A step changes the table of tasks at one task, and is of one of four kinds:
a task takes a mutex in hand, moves on, goes, or goes and takes an entry
with it. -/

/-- **Taking the mutex of a key in hand keeps the locks sound**, whether the
key has an entry or is given a new one. -/
theorem Sound.ask {l : KeyedLock κ τ} (h : l.Sound) (t : τ) (k : κ) : (l.ask t k).Sound := by
  unfold KeyedLock.ask
  cases hk : l.mutexes.get? k with
  | some m =>
    refine ⟨?_, h.apart, h.known, ?_⟩
    · intro t' v hv hr
      rw [Table.get?_put] at hv
      split at hv
      · obtain rfl := Option.some.inj hv
        exact hk
      · exact h.current hv hr
    · intro t₁ t₂ v₁ v₂ h₁ h₂ hs₁ hs₂ hm
      rw [Table.get?_put] at h₁ h₂
      split at h₁
      · obtain rfl := Option.some.inj h₁
        cases hs₁
      · split at h₂
        · obtain rfl := Option.some.inj h₂
          cases hs₂
        · exact h.single h₁ h₂ hs₁ hs₂ hm
  | none =>
    refine ⟨?_, ?_, ?_, ?_⟩
    · intro t' v hv hr
      rw [Table.get?_put] at hv
      split at hv
      · obtain rfl := Option.some.inj hv
        simp
      · have hv' := h.current hv hr
        -- the key is new, so nobody who refers to a mutex came for it
        have hne : v.key ≠ k := fun e => by simp [e, hk] at hv'
        simpa [hne] using hv'
    · intro k₁ k₂ m h₁ h₂
      simp only [Table.get?_put] at h₁ h₂
      split at h₁ <;> split at h₂
      · simp_all
      · obtain rfl := Option.some.inj h₁
        exact absurd (h.known h₂) (Nat.lt_irrefl _)
      · obtain rfl := Option.some.inj h₂
        exact absurd (h.known h₁) (Nat.lt_irrefl _)
      · exact h.apart h₁ h₂
    · intro k' m hm
      simp only [Table.get?_put] at hm
      split at hm
      · obtain rfl := Option.some.inj hm
        exact Nat.lt_succ_self _
      · exact Nat.lt_succ_of_lt (h.known hm)
    · intro t₁ t₂ v₁ v₂ h₁ h₂ hs₁ hs₂ hm
      rw [Table.get?_put] at h₁ h₂
      split at h₁
      · obtain rfl := Option.some.inj h₁
        cases hs₁
      · split at h₂
        · obtain rfl := Option.some.inj h₂
          cases hs₂
        · exact h.single h₁ h₂ hs₁ hs₂ hm

/-- **Moving on keeps the locks sound**: a task that refers to a mutex after
the step did so before, and one that holds it after the step held it before
or was let in when nobody did. -/
theorem Sound.moveTo {l : KeyedLock κ τ} (h : l.Sound) {t : τ} {v : LockVisit κ}
    (hv : l.visits.get? t = some v) (hr : v.refers = true) {stage : LockStage}
    (hfree : stage = .holding → l.isHeld v.mutex = false) : (l.moveTo stage t v).Sound := by
  refine ⟨?_, h.apart, h.known, ?_⟩
  · intro t' v' hv' hr'
    simp only [KeyedLock.moveTo, Table.get?_put] at hv'
    split at hv'
    · obtain rfl := Option.some.inj hv'
      have hcur := h.current hv hr
      exact hcur
    · exact h.current hv' hr'
  · intro t₁ t₂ v₁ v₂ h₁ h₂ hs₁ hs₂ hm
    simp only [KeyedLock.moveTo, Table.get?_put] at h₁ h₂
    split at h₁ <;> split at h₂
    · simp_all
    · obtain rfl := Option.some.inj h₁
      exact absurd hs₂ ((isHeld_eq_false_iff _ _).1 (hfree hs₁) _ _ h₂ hm.symm)
    · obtain rfl := Option.some.inj h₂
      exact absurd hs₁ ((isHeld_eq_false_iff _ _).1 (hfree hs₂) _ _ h₁ hm)
    · exact h.single h₁ h₂ hs₁ hs₂ hm

/-- A task that goes takes nothing from the others. -/
theorem Sound.forget {l : KeyedLock κ τ} (h : l.Sound) (t : τ) : (l.forget t).Sound := by
  have old : ∀ {t' v}, (l.forget t).visits.get? t' = some v → l.visits.get? t' = some v := by
    intro t' v hv
    simp only [KeyedLock.forget, Table.get?_erase] at hv
    split at hv
    · cases hv
    · exact hv
  exact ⟨fun hv => h.current (old hv), h.apart, h.known, fun h₁ h₂ => h.single (old h₁) (old h₂)⟩

/-- **Taking an entry out keeps the locks sound**, because nobody refers to
the mutex in it. -/
theorem Sound.sweepKey {l : KeyedLock κ τ} (h : l.Sound) (k : κ) : (l.sweepKey k).Sound := by
  unfold KeyedLock.sweepKey
  cases hk : l.mutexes.get? k with
  | none => exact h
  | some m =>
    by_cases href : l.isReferredTo m = true
    · simpa only [href, if_true] using h
    · have hnone := (isReferredTo_eq_false_iff m l).1 (by simpa using href)
      have old : ∀ {k' m'}, (l.mutexes.erase k).get? k' = some m' → l.mutexes.get? k' = some m' := by
        intro k' m' hm
        rw [Table.get?_erase] at hm
        split at hm
        · cases hm
        · exact hm
      simp only [href]
      refine ⟨?_, fun h₁ h₂ => h.apart (old h₁) (old h₂), fun hm => h.known (old hm), h.single⟩
      intro t v hv hr
      have hv' := h.current hv hr
      have hne : v.key ≠ k := by
        intro e
        rw [e, hk] at hv'
        exact absurd hr (by simp [hnone t v hv (Option.some.inj hv').symm])
      simpa [hne] using hv'

/-! ## Every step -/

theorem Sound.empty : (KeyedLock.empty : KeyedLock κ τ).Sound :=
  ⟨fun h => by simp [KeyedLock.empty] at h, fun h => by simp [KeyedLock.empty] at h,
    fun h => by simp [KeyedLock.empty] at h, fun h => by simp [KeyedLock.empty] at h⟩

/-- **Every step keeps the locks sound.** -/
theorem Sound.step {l l' : KeyedLock κ τ} (h : l.Sound) {e : Event κ τ}
    (hs : l.step? e = some l') : l'.Sound := by
  cases e with
  | ask t k =>
    simp only [step?] at hs
    split at hs
    · cases hs
    · obtain rfl := Option.some.inj hs
      exact h.ask t k
  | acquire t =>
    simp only [step?] at hs
    split at hs
    · next v hv =>
      split at hs
      · next hw =>
        obtain rfl := Option.some.inj hs
        exact h.moveTo hv (by simp [LockVisit.refers, hw.1]) (fun _ => hw.2)
      · cases hs
    · cases hs
  | cancel t =>
    simp only [step?] at hs
    split at hs
    · split at hs
      · obtain rfl := Option.some.inj hs
        exact h.forget t
      · cases hs
    · cases hs
  | release t =>
    simp only [step?] at hs
    split at hs
    · next v hv =>
      split at hs
      · next hw =>
        obtain rfl := Option.some.inj hs
        exact h.moveTo hv (by simp [LockVisit.refers, hw]) (by simp)
      · cases hs
    · cases hs
  | drop t =>
    simp only [step?] at hs
    split at hs
    · next v hv =>
      split at hs
      · next hw =>
        obtain rfl := Option.some.inj hs
        exact h.moveTo hv (by simp [LockVisit.refers, hw]) (by simp)
      · cases hs
    · cases hs
  | sweep t =>
    simp only [step?] at hs
    split at hs
    · next v hv =>
      split at hs
      · obtain rfl := Option.some.inj hs
        exact (h.forget t).sweepKey v.key
      · cases hs
    · cases hs

/-- A step leaves the dealings of other tasks as they are. -/
theorem visits_step {l l' : KeyedLock κ τ} {e : Event κ τ} (hs : l.step? e = some l') {t : τ}
    (ht : t ≠ e.task) : l'.visits.get? t = l.visits.get? t := by
  have sweeps : ∀ (l : KeyedLock κ τ) (k : κ), (l.sweepKey k).visits = l.visits := by
    intro l k
    unfold KeyedLock.sweepKey
    split
    · split <;> rfl
    · rfl
  cases e <;> simp only [step?] at hs <;> simp only [Event.task] at ht
  case ask =>
    split at hs
    · cases hs
    · obtain rfl := Option.some.inj hs
      unfold KeyedLock.ask
      split <;> simp [ht]
  all_goals
    split at hs
    · split at hs
      · obtain rfl := Option.some.inj hs
        simp [KeyedLock.moveTo, KeyedLock.forget, sweeps, ht]
      · cases hs
    · cases hs

/-- A task that has taken the mutex of a key in hand waits for it. -/
theorem waiting_of_ask {l l' : KeyedLock κ τ} {t : τ} {k : κ}
    (hs : l.step? (.ask t k) = some l') : ∃ m, l'.visits.get? t = some ⟨k, m, .waiting⟩ := by
  simp only [step?] at hs
  split at hs
  · cases hs
  · obtain rfl := Option.some.inj hs
    unfold KeyedLock.ask
    split <;> simp

/-- A task that waited for a key holds it once it has acquired the mutex. -/
theorem holds_of_acquire {l l' : KeyedLock κ τ} {t : τ} {k : κ} {m : Nat}
    (hv : l.visits.get? t = some ⟨k, m, .waiting⟩) (hs : l.step? (.acquire t) = some l') :
    l'.Holds t k := by
  simp only [step?, hv] at hs
  split at hs
  · obtain rfl := Option.some.inj hs
    exact ⟨m, by simp [KeyedLock.moveTo]⟩
  · cases hs

/-- **A key has one holder.** -/
theorem Sound.holder_unique {l : KeyedLock κ τ} (h : l.Sound) {t t' : τ} {k : κ}
    (ht : l.Holds t k) (ht' : l.Holds t' k) : t = t' := by
  obtain ⟨m, hm⟩ := ht
  obtain ⟨m', hm'⟩ := ht'
  have e := h.current hm rfl
  have e' := h.current hm' rfl
  exact h.single hm hm' rfl rfl (Option.some.inj (e.symm.trans e'))

end CourierDispatch.KeyedLock
