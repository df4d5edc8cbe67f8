import CourierDispatch.Proofs.Courier.LockSteps

/-!
# Keys do not get in each other's way

Locks by key are to keep out the others at one key and nobody at another. That a key has one
holder is the invariant of `Proofs.Courier.LockExclusion`; here it is joined with the converse
(`exclusive_run`): what keeps a task that waits for a key from acquiring it is the holder of that
key and nothing else, and no step at another key makes a difference to who that is.

Both directions need the invariant that whoever waits has the mutex in hand that the table has for
the key. Without it a waiting task might be kept out by a mutex that stands for the key no more,
or let in by a new one.
-/

namespace CourierDispatch.KeyedLock

variable {κ τ : Type} [DecidableEq κ] [DecidableEq τ] {l l' : KeyedLock κ τ} {e : Event κ τ}
  {t t' : τ} {k : κ} {m : Nat} {events : List (Event κ τ)}

/-- A task waits for a key. -/
def Awaits (t : τ) (k : κ) (l : KeyedLock κ τ) : Prop :=
  ∃ m, l.visits.get? t = some ⟨k, m, .waiting⟩

/-- Nobody but the task holds the key or waits for it. -/
def LeftTo (t : τ) (k : κ) (l : KeyedLock κ τ) : Prop :=
  ∀ t', t' ≠ t → ¬ l.Holds t' k ∧ ¬ l.Awaits t' k

/-- **Steps at other keys**, one after another. -/
def Elsewhere (k : κ) : List (Event κ τ) → KeyedLock κ τ → Prop
  | [], _ => True
  | e :: es, l => e.key? l ≠ some k ∧ Elsewhere k es ((l.step? e).getD l)

/-! ## Who is let in -/

/-- **A task that waits for a key is let in exactly if nobody holds the key.** -/
theorem Sound.acquire_iff (h : l.Sound) (ht : l.Awaits t k) :
    (∃ l', l.step? (.acquire t) = some l') ↔ ∀ t', ¬ l.Holds t' k := by
  obtain ⟨m, hv⟩ := ht
  have hentry : l.mutexes.get? k = some m := h.current hv rfl
  constructor
  · rintro ⟨l', hs⟩ t' ⟨m', hv'⟩
    -- the holder has the same mutex in hand, so it would not be free
    have hentry' : l.mutexes.get? k = some m' := h.current hv' rfl
    obtain rfl := Option.some.inj (hentry.symm.trans hentry')
    cases step?_eq_some_iff.1 hs with
    | acquired hv'' hfree =>
      obtain ⟨rfl, rfl, -⟩ := LockVisit.mk.inj (Option.some.inj (hv.symm.trans hv''))
      exact (isHeld_eq_false_iff _ _).1 hfree t' _ hv' rfl rfl
  · intro hnobody
    refine ⟨_, step?_eq_some_iff.2 (.acquired hv ((isHeld_eq_false_iff m l).2 ?_))⟩
    rintro t' ⟨k', m', stage⟩ hv' rfl hstage
    obtain rfl : stage = .holding := hstage
    obtain rfl := h.apart (h.current hv' rfl) hentry
    exact hnobody t' ⟨_, hv'⟩

/-- A task that is let in holds its key. -/
theorem Awaits.holds (ht : l.Awaits t k) (hs : l.step? (.acquire t) = some l') : l'.Holds t k :=
  let ⟨_, hv⟩ := ht
  holds_of_acquire hv hs

/-- A task holds a key that is left to it as soon as it tries. -/
theorem Sound.exists_acquire (h : l.Sound) (ht : l.Awaits t k) (hleft : l.LeftTo t k) :
    ∃ l', l.step? (.acquire t) = some l' ∧ l'.Holds t k := by
  obtain ⟨l', hs⟩ := (h.acquire_iff ht).2 fun t' hholds => by
    by_cases heq : t' = t
    · obtain ⟨m, hv⟩ := ht
      obtain ⟨m', hv'⟩ := heq ▸ hholds
      cases hv.symm.trans hv'
    · exact (hleft t' heq).1 hholds
  exact ⟨l', hs, ht.holds hs⟩

/-- A task that has asked for a key waits for it, and nobody else has come. -/
theorem awaits_ask (hnew : l.visits.get? t = none) : (l.ask t k).Awaits t k :=
  waiting_of_ask (step?_eq_some_iff.2 (.asked k hnew))

theorem LeftTo.ask (hleft : l.LeftTo t k) (hnew : l.visits.get? t = none) :
    (l.ask t k).LeftTo t k := by
  intro t' hne
  unfold Holds Awaits
  rw [visits_step (step?_eq_some_iff.2 (.asked k hnew)) hne]
  exact hleft t' hne

/-! ## What happens at other keys -/

/-- **Whatever happens at other keys**, a key has the entry and the tasks that it had. -/
theorem Elsewhere.run (h : Elsewhere k events l) :
    (l.run events).mutexes.get? k = l.mutexes.get? k
      ∧ ∀ t v, v.key = k → ((l.run events).visits.get? t = some v ↔ l.visits.get? t = some v) := by
  induction events generalizing l with
  | nil => exact ⟨rfl, fun _ _ _ => Iff.rfl⟩
  | cons e es ih =>
    obtain ⟨hkey, hrest⟩ := h
    rw [show l.run (e :: es) = ((l.step? e).getD l).run es from rfl]
    cases hs : l.step? e with
    | none =>
      rw [hs] at hrest
      exact ih hrest
    | some l' =>
      rw [hs] at hrest
      obtain ⟨hentry, hvisits⟩ := ih hrest
      obtain ⟨hentry', hvisits'⟩ := (step?_eq_some_iff.1 hs).elsewhere hkey
      exact ⟨hentry.trans hentry', fun t v hv => (hvisits t v hv).trans (hvisits' t v hv)⟩

theorem Awaits.elsewhere (ht : l.Awaits t k) (h : Elsewhere k events l) :
    (l.run events).Awaits t k :=
  let ⟨m, hv⟩ := ht
  ⟨m, (h.run.2 t _ rfl).2 hv⟩

theorem LeftTo.elsewhere (hleft : l.LeftTo t k) (h : Elsewhere k events l) :
    (l.run events).LeftTo t k := fun t' hne =>
  ⟨fun ⟨m, hv⟩ => (hleft t' hne).1 ⟨m, (h.run.2 t' _ rfl).1 hv⟩,
    fun ⟨m, hv⟩ => (hleft t' hne).2 ⟨m, (h.run.2 t' _ rfl).1 hv⟩⟩

/-! ## The main statement -/

/-- **What locks by key give, and what they cost**, at a moment. -/
structure Exclusive (l : KeyedLock κ τ) : Prop where
  /-- A key has one holder; a task holds it until it releases the mutex. -/
  single : ∀ {t t' k}, l.Holds t k → l.Holds t' k → t = t'
  /-- Whoever holds a key or waits for it has the mutex in hand that the table has for it. -/
  shared : ∀ {t k m stage}, l.visits.get? t = some ⟨k, m, stage⟩ →
    stage = .holding ∨ stage = .waiting → l.mutexes.get? k = some m
  /-- No other key has that mutex. -/
  own : ∀ {k k' m}, l.mutexes.get? k = some m → l.mutexes.get? k' = some m → k = k'
  /-- A task that waits for a key is let in exactly if nobody holds the key … -/
  letIn_iff : ∀ {t k}, l.Awaits t k →
    ((∃ l', l.step? (.acquire t) = some l') ↔ ∀ t', ¬ l.Holds t' k)
  /-- … and it holds the key then. -/
  letIn : ∀ {t k l'}, l.Awaits t k → l.step? (.acquire t) = some l' → l'.Holds t k
  /-- A step at another key changes nothing at a key: neither its entry nor who is at it. -/
  undisturbed : ∀ {e l' k}, l.step? e = some l' → e.key? l ≠ some k →
    l'.mutexes.get? k = l.mutexes.get? k
      ∧ ∀ t v, v.key = k → (l'.visits.get? t = some v ↔ l.visits.get? t = some v)
  /-- A task that waits for a key which nobody else holds or waits for can acquire it, whatever
  happens at other keys meanwhile. -/
  atOnce : ∀ {t k}, l.Awaits t k → l.LeftTo t k → ∀ {others}, Elsewhere k others l →
    ∃ l', (l.run others).step? (.acquire t) = some l' ∧ l'.Holds t k
  /-- So can one that comes for the key only now. -/
  newcomer : ∀ {t k}, l.visits.get? t = none → l.LeftTo t k →
    l.step? (.ask t k) = some (l.ask t k) ∧ ∀ {others}, Elsewhere k others (l.ask t k) →
      ∃ l', ((l.ask t k).run others).step? (.acquire t) = some l' ∧ l'.Holds t k

/-- A task for which a key is left can acquire it, whatever happens at other keys. -/
theorem Sound.atOnce (h : l.Sound) (ht : l.Awaits t k) (hleft : l.LeftTo t k)
    (hothers : Elsewhere k events l) :
    ∃ l', (l.run events).step? (.acquire t) = some l' ∧ l'.Holds t k :=
  (h.run events).exists_acquire (ht.elsewhere hothers) (hleft.elsewhere hothers)

/-- **Locks by key keep out the others at one key and nobody at another**, however the steps of
tasks fall between one another. -/
theorem exclusive_run (events : List (Event κ τ)) :
    (empty.run events : KeyedLock κ τ).Exclusive := by
  have hsound : (empty.run events : KeyedLock κ τ).Sound := Sound.empty.run events
  generalize (empty.run events : KeyedLock κ τ) = l at hsound
  refine
    { single := hsound.holder_unique
      shared := fun hv hstage => hsound.current hv ?_
      own := hsound.apart
      letIn_iff := hsound.acquire_iff
      letIn := Awaits.holds
      undisturbed := fun hs => (step?_eq_some_iff.1 hs).elsewhere
      atOnce := fun {_ _} ht hleft {_} hothers => hsound.atOnce ht hleft hothers
      newcomer := fun {t k} hnew hleft => ?_ }
  · rcases hstage with rfl | rfl <;> rfl
  · refine ⟨step?_eq_some_iff.2 (.asked k hnew), fun hothers => ?_⟩
    exact (hsound.ask t k).atOnce (awaits_ask hnew) (hleft.ask hnew) hothers

/-- Key 7 is held and waited for; a third task comes for key 8 and acquires it, while the first
leaves key 7 and the second acquires that. -/
theorem exclusive_run_otherKey :
    let l : KeyedLock Nat Nat := empty.run [.ask 1 7, .acquire 1, .ask 2 7]
    ∃ l', ((l.ask 3 8).run [.release 1, .drop 1, .acquire 2, .sweep 1]).step? (.acquire 3) = some l'
      ∧ l'.Holds 3 8 := by
  intro l
  have hleft : l.LeftTo 3 8 := by
    refine fun t' _ => ⟨?_, ?_⟩
    all_goals
      rintro ⟨m, hm⟩
      have hmem := (Table.mem_entries_iff _ _ _).2 hm
      have hentries : l.visits.entries = [(1, ⟨7, 0, .holding⟩), (2, ⟨7, 0, .waiting⟩)] := rfl
      simp [hentries] at hmem
  refine ((exclusive_run [.ask 1 7, .acquire 1, .ask 2 7]).newcomer rfl hleft).2 ?_
  exact ⟨by decide, by decide, by decide, by decide, trivial⟩

end CourierDispatch.KeyedLock
