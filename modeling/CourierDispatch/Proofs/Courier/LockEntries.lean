import CourierDispatch.Proofs.Courier.LockIndependence

/-!
# The entries of locks

The table of locks is to hold the keys that are in use and no others. An entry is taken out by a
task that leaves its key, if it is the last that refers to the mutex; a task that is cancelled
while it waits drops its reference and looks after nothing. So whether an entry outlives its use
depends on who goes last. If a task leaves while another one waits, the entry stays for that one;
and if that one is cancelled before it has acquired the mutex, nobody is left to take the entry
out (`entry_left_by_waiter`).

This is the only way in which an entry can outlive its use. In every state in which nobody is
half-way out, the keys with an entry are those that are held or waited for, and those whose last
visitor was a cancelled waiter (`entries_run`); the second kind is gone as soon as a task has come
for the key and left it again, and there is none as long as every waiter that is cancelled leaves
somebody else at its key.
-/

namespace CourierDispatch.KeyedLock

variable {κ τ : Type} [DecidableEq κ] [DecidableEq τ] {l l' : KeyedLock κ τ} {e : Event κ τ}
  {t : τ} {k : κ} {m : Nat} {events : List (Event κ τ)}

/-- A task holds the key or waits for it. -/
def InUse (k : κ) (l : KeyedLock κ τ) : Prop := ∃ t, l.Holds t k ∨ l.Awaits t k

/-- A task is at the key, be it on its way out. -/
def Visited (k : κ) (l : KeyedLock κ τ) : Prop := ∃ t v, l.visits.get? t = some v ∧ v.key = k

/-- **Nobody is half-way out**: whoever is at a key holds it or waits for it. -/
def AtRest (l : KeyedLock κ τ) : Prop :=
  ∀ t v, l.visits.get? t = some v → v.stage = .holding ∨ v.stage = .waiting

/-- **A key was forsaken** in the course of steps: the last that was at it was a task that waited
for it and was cancelled, and nobody has come since. -/
def Forsaken (events : List (Event κ τ)) (k : κ) : Prop :=
  ∃ before t after, events = before ++ .cancel t :: after
    ∧ (empty.run before : KeyedLock κ τ).Awaits t k
    ∧ ∀ seen, seen <+: after → ¬ (empty.run (before ++ .cancel t :: seen) : KeyedLock κ τ).Visited k

/-! ## Who is at a key -/

omit [DecidableEq κ] in
/-- Whoever uses a key is at it. -/
theorem InUse.visited (h : l.InUse k) : l.Visited k := by
  obtain ⟨t, ⟨m, hv⟩ | ⟨m, hv⟩⟩ := h
  · exact ⟨t, _, hv, rfl⟩
  · exact ⟨t, _, hv, rfl⟩

omit [DecidableEq κ] in
theorem AtRest.inUse_iff (h : l.AtRest) : l.InUse k ↔ l.Visited k := by
  refine ⟨InUse.visited, ?_⟩
  rintro ⟨t, ⟨_, m, stage⟩, hv, rfl⟩
  rcases h t _ hv with hstage | hstage
  · obtain rfl : stage = .holding := hstage
    exact ⟨t, .inl ⟨m, hv⟩⟩
  · obtain rfl : stage = .waiting := hstage
    exact ⟨t, .inr ⟨m, hv⟩⟩

omit [DecidableEq κ] in
/-- When nobody is at work, nobody is half-way out and no key is in use. -/
theorem atRest_of_forall (h : ∀ t, l.visits.get? t = none) : l.AtRest ∧ ∀ k, ¬ l.InUse k := by
  refine ⟨fun t v hv => ?_, fun k huse => ?_⟩
  · cases (h t).symm.trans hv
  · obtain ⟨t, v, hv, -⟩ := huse.visited
    cases (h t).symm.trans hv

/-- **A key that is in use has an entry.** -/
theorem Sound.mem_keys (h : l.Sound) (huse : l.InUse k) : k ∈ l.mutexes.keys := by
  have hentry : ∃ m, l.mutexes.get? k = some m := by
    obtain ⟨t, ⟨m, hv⟩ | ⟨m, hv⟩⟩ := huse
    · exact ⟨m, h.current hv rfl⟩
    · exact ⟨m, h.current hv rfl⟩
  by_contra hnot
  obtain ⟨m, hm⟩ := hentry
  cases ((Table.get?_eq_none_iff _ _).2 hnot).symm.trans hm

/-! ## What a step does to the entry of a key -/

/-- An entry at which nobody is after a sweep is taken out by it. -/
theorem Sound.sweepKey_of_not_visited (h : l.Sound) (hnobody : ¬ l.Visited k) :
    (l.sweepKey k).mutexes.get? k = none := by
  unfold KeyedLock.sweepKey
  cases hk : l.mutexes.get? k with
  | none => exact hk
  | some m =>
    have hfree : l.isReferredTo m = false := by
      refine (isReferredTo_eq_false_iff m l).2 fun t v hv hm => ?_
      cases hrefers : v.refers with
      | false => rfl
      | true =>
        subst hm
        exact absurd ⟨t, v, hv, h.apart (h.current hv hrefers) hk⟩ hnobody
    simp [hfree]

/-- A step by which nobody comes to a key or leaves it leaves the entry as it is. -/
theorem Step.mutexes_of_not_visited (hs : l.Step e l') (hbefore : ¬ l.Visited k)
    (hafter : ¬ l'.Visited k) : l'.mutexes.get? k = l.mutexes.get? k := by
  refine hs.mutexes_of_ne fun hkey => ?_
  cases hs with
  | asked k' hnew =>
    obtain ⟨m, hm⟩ := awaits_ask (k := k') hnew
    exact hafter ⟨_, _, hm, Option.some.inj hkey⟩
  | acquired hv | cancelled hv | released hv | dropped hv | swept hv =>
    refine hbefore ⟨_, _, hv, ?_⟩
    simpa [Event.key?, Event.task, hv] using hkey

/-- **The last that is at a key** is a cancelled waiter, or takes the entry along. -/
theorem Step.last_visitor (hs : l.Step e l') (hsound : l.Sound) (hbefore : l.Visited k)
    (hafter : ¬ l'.Visited k) :
    (∃ t, e = .cancel t ∧ l.Awaits t k) ∨ l'.mutexes.get? k = none := by
  obtain ⟨t, v, hv, rfl⟩ := hbefore
  -- the visitor took the step, since the others are where they were
  obtain rfl : t = e.task := by
    by_contra hne
    exact hafter ⟨t, v, (visits_step (step?_eq_some_iff.2 hs) hne).trans hv, rfl⟩
  cases hs with
  | asked k hnew => cases hnew.symm.trans hv
  | acquired hv' | released hv' | dropped hv' =>
    obtain rfl := Option.some.inj (hv'.symm.trans hv)
    exact absurd ⟨_, _, Table.get?_put_self .., rfl⟩ hafter
  | cancelled hv' =>
    obtain rfl := Option.some.inj (hv'.symm.trans hv)
    exact .inl ⟨_, rfl, _, hv'⟩
  | swept hv' =>
    obtain rfl := Option.some.inj (hv'.symm.trans hv)
    refine .inr ((hsound.forget _).sweepKey_of_not_visited ?_)
    simpa [Visited] using hafter

/-! ## Forsaken keys -/

/-- Nobody is at a key that was forsaken. -/
theorem Forsaken.not_visited (h : Forsaken events k) :
    ¬ (empty.run events : KeyedLock κ τ).Visited k := by
  obtain ⟨before, t, after, rfl, -, hnobody⟩ := h
  exact hnobody after (List.prefix_refl _)

/-- A key at which nobody is after a waiter was cancelled is forsaken. -/
theorem forsaken_of_cancel (hwait : (empty.run events : KeyedLock κ τ).Awaits t k)
    (hnobody : ¬ (empty.run (events ++ [.cancel t]) : KeyedLock κ τ).Visited k) :
    Forsaken (events ++ [.cancel t]) k := by
  refine ⟨events, t, [], rfl, hwait, fun seen hseen => ?_⟩
  obtain rfl := List.prefix_nil.1 hseen
  exact hnobody

/-- It stays forsaken until somebody comes. -/
theorem Forsaken.concat (h : Forsaken events k)
    (hnobody : ¬ (empty.run (events ++ [e]) : KeyedLock κ τ).Visited k) :
    Forsaken (events ++ [e]) k := by
  obtain ⟨before, t, after, rfl, hwait, hbefore⟩ := h
  refine ⟨before, t, after ++ [e], by simp, hwait, fun seen hseen => ?_⟩
  rcases List.prefix_concat_iff.1 hseen with rfl | hseen
  · simpa using hnobody
  · exact hbefore seen hseen

/-- **A forsaken key has an entry**, which nobody takes out. -/
theorem Forsaken.mem_keys (h : Forsaken events k) :
    k ∈ (empty.run events : KeyedLock κ τ).mutexes.keys := by
  obtain ⟨before, t, after, rfl, ⟨m, hv⟩, hnobody⟩ := h
  have hentry : (empty.run before : KeyedLock κ τ).mutexes.get? k = some m :=
    (Sound.empty.run before).current hv rfl
  suffices hkept : (empty.run (before ++ .cancel t :: after) : KeyedLock κ τ).mutexes.get? k
      = some m by
    by_contra hnot
    cases ((Table.get?_eq_none_iff _ _).2 hnot).symm.trans hkept
  -- from the first step after the cancellation to the last
  induction after using List.reverseRecOn with
  | nil =>
    rw [run_concat, step?_eq_some_iff.2 (.cancelled hv)]
    exact hentry
  | append_singleton after e ih =>
    have hbefore := hnobody after (List.prefix_append _ _)
    have hafter := hnobody _ (List.prefix_refl _)
    have hkept := ih fun seen hseen => hnobody seen (hseen.trans (List.prefix_append _ _))
    rw [← List.cons_append, ← List.append_assoc] at hafter ⊢
    rw [run_concat] at hafter ⊢
    cases hs : (empty.run (before ++ .cancel t :: after) : KeyedLock κ τ).step? e with
    | none => exact hkept
    | some l' =>
      rw [hs] at hafter
      exact ((step?_eq_some_iff.1 hs).mutexes_of_not_visited hbefore hafter).trans hkept

/-- **An entry has a visitor, or its key was forsaken.** -/
theorem visited_or_forsaken (events : List (Event κ τ)) :
    ∀ k, k ∈ (empty.run events : KeyedLock κ τ).mutexes.keys →
      (empty.run events : KeyedLock κ τ).Visited k ∨ Forsaken events k := by
  refine run_induction (P := fun es l => ∀ k, k ∈ l.mutexes.keys → l.Visited k ∨ Forsaken es k)
    ?_ ?_ ?_ events
  · intro k hk
    simp [KeyedLock.empty, Table.keys, Table.empty] at hk
  · intro pre e ih hs k hk
    by_cases hafter : (empty.run (pre ++ [e]) : KeyedLock κ τ).Visited k
    · exact .inl hafter
    · refine .inr ?_
      by_cases hbefore : (empty.run pre : KeyedLock κ τ).Visited k
      · rcases hs.last_visitor (Sound.empty.run pre) hbefore hafter with ⟨t, rfl, hwait⟩ | hnone
        · exact forsaken_of_cancel hwait hafter
        · exact absurd hk ((Table.get?_eq_none_iff _ _).1 hnone)
      · have hkept : k ∈ (empty.run pre : KeyedLock κ τ).mutexes.keys := by
          by_contra hnot
          refine (Table.get?_eq_none_iff _ _).1 ?_ hk
          rw [hs.mutexes_of_not_visited hbefore hafter]
          exact (Table.get?_eq_none_iff _ _).2 hnot
        exact ((ih k hkept).resolve_left hbefore).concat hafter
  · intro pre e ih heq k hk
    rw [heq] at hk ⊢
    refine (ih k hk).imp_right fun h => h.concat ?_
    rw [heq]
    exact h.not_visited

/-- **No cancelled waiter goes last**: one that is cancelled leaves somebody else at its key. -/
def Accompanied (events : List (Event κ τ)) : Prop :=
  ∀ before t after, events = before ++ .cancel t :: after →
    ∀ k, (empty.run before : KeyedLock κ τ).Awaits t k →
      ∃ t' v, t' ≠ t ∧ (empty.run before : KeyedLock κ τ).visits.get? t' = some v ∧ v.key = k

/-- Then no key is forsaken. -/
theorem Accompanied.not_forsaken (h : Accompanied events) : ¬ Forsaken events k := by
  rintro ⟨before, t, after, rfl, hwait, hnobody⟩
  obtain ⟨t', v, hne, hv, rfl⟩ := h before t after rfl _ hwait
  obtain ⟨m, hm⟩ := hwait
  refine hnobody [] List.nil_prefix ⟨t', v, ?_, rfl⟩
  have hs := step?_eq_some_iff.2 (.cancelled hm)
  rw [run_concat, hs]
  exact (visits_step hs hne).trans hv

/-! ## The way out -/

/-- **A task that leaves a key as the last takes the entry along.** -/
theorem Sound.leave_last (h : l.Sound) (hholds : l.Holds t k)
    (hlast : ∀ t' v, l.visits.get? t' = some v → v.key = k → t' = t) :
    k ∉ (l.leave t).mutexes.keys := by
  obtain ⟨m, hv⟩ := hholds
  let released := l.moveTo .released t ⟨k, m, .holding⟩
  have hrelease : l.step? (.release t) = some released := step?_eq_some_iff.2 (.released hv)
  have hv₁ : released.visits.get? t = some ⟨k, m, .released⟩ := by simp [released]
  let dropped := released.moveTo .dropped t ⟨k, m, .released⟩
  have hdrop : released.step? (.drop t) = some dropped := step?_eq_some_iff.2 (.dropped hv₁)
  have hv₂ : dropped.visits.get? t = some ⟨k, m, .dropped⟩ := by simp [dropped]
  have hsweep : dropped.step? (.sweep t) = some ((dropped.forget t).sweepKey k) :=
    step?_eq_some_iff.2 (.swept hv₂)
  have hleave : l.leave t = (dropped.forget t).sweepKey k := by
    simp [KeyedLock.leave, KeyedLock.run, hrelease, hdrop, hsweep]
  have hsound : (dropped.forget t).Sound := ((h.step hrelease).step hdrop).forget t
  have hnobody : ¬ (dropped.forget t).Visited k := by
    rintro ⟨t', v, hv', hkey⟩
    rw [get?_visits_forget] at hv'
    split at hv'
    · cases hv'
    · next hne =>
      refine hne (hlast t' v ?_ hkey)
      simpa [dropped, released, hne] using hv'
  rw [hleave]
  exact (Table.get?_eq_none_iff _ _).1 (hsound.sweepKey_of_not_visited hnobody)

/-! ## The main statement -/

/-- **What the table of locks holds** after a course of steps. -/
structure Entries (events : List (Event κ τ)) (l : KeyedLock κ τ) : Prop where
  /-- A key that is in use has an entry, whatever else goes on. -/
  used : ∀ {k}, l.InUse k → k ∈ l.mutexes.keys
  /-- When nobody is half-way out, the keys with an entry are those that are in use, and those
  that were forsaken. -/
  mem_iff : l.AtRest → ∀ k, k ∈ l.mutexes.keys ↔ l.InUse k ∨ Forsaken events k
  /-- No key is both. -/
  apart : ∀ {k}, Forsaken events k → ¬ l.InUse k
  /-- When everybody has left or been cancelled, the table is empty exactly if no key was
  forsaken. -/
  empty_iff : (∀ t, l.visits.get? t = none) → (l.mutexes.keys = [] ↔ ∀ k, ¬ Forsaken events k)
  /-- None was if no cancelled waiter went last. -/
  accompanied : Accompanied events → ∀ k, ¬ Forsaken events k
  /-- A task that leaves a key as the last takes the entry along, whether or not the key had been
  forsaken when it came. -/
  leave : ∀ {t k}, l.Holds t k → (∀ t' v, l.visits.get? t' = some v → v.key = k → t' = t) →
    k ∉ (l.leave t).mutexes.keys

/-- **What an entry stands for** when nobody is half-way out. -/
theorem mem_keys_iff (hrest : (empty.run events : KeyedLock κ τ).AtRest) (k : κ) :
    k ∈ (empty.run events : KeyedLock κ τ).mutexes.keys
      ↔ (empty.run events : KeyedLock κ τ).InUse k ∨ Forsaken events k := by
  constructor
  · exact fun hk => (visited_or_forsaken events k hk).imp_left hrest.inUse_iff.2
  · rintro (huse | hforsaken)
    · exact (Sound.empty.run events).mem_keys huse
    · exact hforsaken.mem_keys

/-- **The entries of locks are those of the keys in use and of those that a cancelled waiter was
the last to be at**, however the steps of tasks fall between one another. -/
theorem entries_run (events : List (Event κ τ)) :
    Entries events (empty.run events : KeyedLock κ τ) := by
  have hsound : (empty.run events : KeyedLock κ τ).Sound := Sound.empty.run events
  refine
    { used := hsound.mem_keys
      mem_iff := mem_keys_iff
      apart := fun hforsaken huse => hforsaken.not_visited huse.visited
      empty_iff := fun hnobody => ?_
      accompanied := fun h _ => h.not_forsaken
      leave := hsound.leave_last }
  obtain ⟨hrest, hunused⟩ := atRest_of_forall hnobody
  rw [List.eq_nil_iff_forall_not_mem]
  refine forall_congr' fun k => not_congr ?_
  rw [mem_keys_iff hrest, or_iff_right (hunused k)]

/-- **A key that nobody uses, with an entry**: the task that holds key 7 leaves it while another
one waits, which is then cancelled before it has gone on. -/
theorem entry_left_by_waiter :
    let l : KeyedLock Nat Nat :=
      empty.run [.ask 1 7, .acquire 1, .ask 2 7, .release 1, .drop 1, .sweep 1, .cancel 2]
    l.AtRest ∧ l.visits.keys = [] ∧ ¬ l.InUse 7 ∧ l.mutexes.keys = [7] := by
  intro l
  have hnobody : ∀ t, l.visits.get? t = none := fun t =>
    (Table.get?_eq_none_iff _ _).2 List.not_mem_nil
  obtain ⟨hrest, hunused⟩ := atRest_of_forall hnobody
  exact ⟨hrest, rfl, hunused 7, rfl⟩

/-- The next task that comes for the key and leaves it takes the entry along. -/
theorem entries_run_nextVisit :
    let l : KeyedLock Nat Nat :=
      empty.run [.ask 1 7, .acquire 1, .ask 2 7, .release 1, .drop 1, .sweep 1, .cancel 2,
        .ask 3 7, .acquire 3]
    7 ∈ l.mutexes.keys ∧ 7 ∉ (l.leave 3).mutexes.keys := by
  intro l
  have hentries : l.visits.entries = [(3, ⟨7, 0, .holding⟩)] := rfl
  have hholds : l.Holds 3 7 := ⟨0, (Table.mem_entries_iff _ _ _).1 (by simp [hentries])⟩
  have hentry := entries_run
    [.ask 1 7, .acquire 1, .ask 2 7, .release 1, .drop 1, .sweep 1, .cancel 2, .ask 3 7, .acquire 3]
  refine ⟨hentry.used ⟨3, .inl hholds⟩, hentry.leave hholds fun t v hv _ => ?_⟩
  have hmem := (Table.mem_entries_iff _ _ _).2 hv
  rw [hentries] at hmem
  simp_all

end CourierDispatch.KeyedLock
