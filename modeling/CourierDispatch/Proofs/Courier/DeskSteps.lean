import CourierDispatch.Courier.Desk
import CourierDispatch.Proofs.Courier.LockExclusion
import Mathlib.Data.List.Induction

/-!
# The steps at the desk

`AssignmentDesk.step?` computes; this module says once what a step can be
(`AssignmentDesk.Step`), with everything that the step went by, so that what
is proved of the desk is proved by going through ten kinds of step and never
by unfolding the function again.

Two kinds write to the store of assignments and couriers on behalf of a call
(`claimed` and `recorded`), one adds a courier (`inserted`), and the others
move a call on or take a step of its lock.
-/

namespace CourierDispatch.AssignmentDesk

variable {τ : Type} [DecidableEq τ]

/-- **What a step at the desk can be.** -/
inductive Step (d : AssignmentDesk τ) : Event τ → AssignmentDesk τ → Prop where
  /-- A courier comes. -/
  | inserted (x : Courier) : Step d (.insert x) { d with store := d.store.insertCourier x }
  /-- A call is made. -/
  | called {t : τ} {o : Uuid} {locks : KeyedLock Uuid τ} (hnew : d.calls.get? t = none)
      (hlock : d.locks.step? (.ask t o) = some locks) :
      Step d (.call t o) { d with locks, calls := d.calls.put t ⟨o, .locking⟩ }
  /-- It acquires the mutex of its order. -/
  | locked {t : τ} {o : Uuid} {locks : KeyedLock Uuid τ}
      (hcall : d.calls.get? t = some ⟨o, .locking⟩)
      (hlock : d.locks.step? (.acquire t) = some locks) :
      Step d (.lock t) { d with locks, calls := d.calls.put t ⟨o, .looking⟩ }
  /-- It finds the assignment of its order. -/
  | found {t : τ} {o : Uuid} {a : Assignment} (hcall : d.calls.get? t = some ⟨o, .looking⟩)
      (ha : d.store.findAssignment o = some a) :
      Step d (.look t) { d with calls := d.calls.put t ⟨o, .leaving (.ok a)⟩ }
  /-- It finds that its order has no assignment. -/
  | missing {t : τ} {o : Uuid} (hcall : d.calls.get? t = some ⟨o, .looking⟩)
      (hnone : d.store.findAssignment o = none) :
      Step d (.look t) { d with calls := d.calls.put t ⟨o, .claiming⟩ }
  /-- It claims a courier. -/
  | claimed {t : τ} {o : Uuid} {x : Courier} {couriers : List Courier}
      (hcall : d.calls.get? t = some ⟨o, .claiming⟩)
      (hclaim : CourierStore.claimFirst d.store.couriers = some (x, couriers)) :
      Step d (.claim t)
        { d with
          store := { d.store with couriers }
          calls := d.calls.put t ⟨o, .recording x.id⟩ }
  /-- It finds every courier taken. -/
  | refused {t : τ} {o : Uuid} (hcall : d.calls.get? t = some ⟨o, .claiming⟩)
      (hclaim : CourierStore.claimFirst d.store.couriers = none) :
      Step d (.claim t)
        { d with calls := d.calls.put t ⟨o, .leaving (.error (.noCourierAvailable o))⟩ }
  /-- It records the assignment. -/
  | recorded {t : τ} {o c : Uuid} (now : Instant)
      (hcall : d.calls.get? t = some ⟨o, .recording c⟩) :
      Step d (.record t now)
        { d with
          store := d.store.recordAssignment ⟨o, c, now⟩
          calls := d.calls.put t ⟨o, .leaving (.ok ⟨o, c, now⟩)⟩ }
  /-- It takes a step out of the lock. -/
  | unlocked {t : τ} {o : Uuid} {r : Except ServiceError Assignment} {e : Event τ}
      {le : KeyedLock.Event Uuid τ} {locks : KeyedLock Uuid τ}
      (hcall : d.calls.get? t = some ⟨o, .leaving r⟩) (hlock : d.locks.step? le = some locks)
      (he : e.task? = some t) (hle : le.task = t) : Step d e { d with locks }
  /-- It takes the last step out of the lock, and returns. -/
  | returned {t : τ} {o : Uuid} {r : Except ServiceError Assignment} {locks : KeyedLock Uuid τ}
      (hcall : d.calls.get? t = some ⟨o, .leaving r⟩)
      (hlock : d.locks.step? (.sweep t) = some locks) :
      Step d (.sweep t) { d with locks, calls := d.calls.put t ⟨o, .returned r⟩ }

/-- What a call does from the stage at which it is. -/
theorem step_of_advance {d d' : AssignmentDesk τ} {e : Event τ} {t : τ} {c : AssignCall}
    (he : e.task? = some t) (hcall : d.calls.get? t = some c)
    (hs : d.advance e t c = some d') : d.Step e d' := by
  obtain ⟨o, stage⟩ := c
  unfold advance at hs
  split at hs <;> simp only [Event.task?, Option.some.injEq] at he <;> try subst he
  case h_1 hstage =>
    obtain rfl : stage = .locking := hstage
    simp only [lockStep, Option.map_map, Option.map_eq_some_iff] at hs
    obtain ⟨locks, hlock, rfl⟩ := hs
    exact .locked hcall hlock
  case h_2 hstage =>
    obtain rfl : stage = .looking := hstage
    obtain rfl := Option.some.inj hs
    unfold look
    cases ha : d.store.findAssignment o with
    | some a => exact .found hcall ha
    | none => exact .missing hcall ha
  case h_3 hstage =>
    obtain rfl : stage = .claiming := hstage
    obtain rfl := Option.some.inj hs
    unfold claim CourierStore.claim
    cases hclaim : CourierStore.claimFirst d.store.couriers with
    | some p => exact .claimed hcall hclaim
    | none => exact .refused hcall hclaim
  case h_4 courierId hstage =>
    obtain rfl : stage = .recording courierId := hstage
    obtain rfl := Option.some.inj hs
    exact .recorded _ hcall
  case h_5 r hstage =>
    obtain rfl : stage = .leaving r := hstage
    simp only [lockStep, Option.map_eq_some_iff] at hs
    obtain ⟨locks, hlock, rfl⟩ := hs
    exact .unlocked hcall hlock rfl rfl
  case h_6 r hstage =>
    obtain rfl : stage = .leaving r := hstage
    simp only [lockStep, Option.map_eq_some_iff] at hs
    obtain ⟨locks, hlock, rfl⟩ := hs
    exact .unlocked hcall hlock rfl rfl
  case h_7 r hstage =>
    obtain rfl : stage = .leaving r := hstage
    simp only [lockStep, Option.map_map, Option.map_eq_some_iff] at hs
    obtain ⟨locks, hlock, rfl⟩ := hs
    exact .returned hcall hlock
  case h_8 => cases hs

/-- **Every step is of one of these kinds.** -/
theorem step_of_step? {d d' : AssignmentDesk τ} {e : Event τ} (hs : d.step? e = some d') :
    d.Step e d' := by
  unfold step? at hs
  split at hs
  · obtain rfl := Option.some.inj hs
    exact .inserted _
  · split at hs
    · cases hs
    · next hnew =>
      simp only [lockStep, Option.map_map, Option.map_eq_some_iff] at hs
      obtain ⟨locks, hlock, rfl⟩ := hs
      exact .called (by simpa [Table.contains] using hnew) hlock
  · simp only [Option.bind_eq_bind, Option.bind_eq_some_iff] at hs
    obtain ⟨t, ht, c, hcall, hadv⟩ := hs
    exact step_of_advance ht hcall hadv

/-! ## Runs -/

/-- Running on from where a run ended. -/
theorem run_append (es₁ es₂ : List (Event τ)) (d : AssignmentDesk τ) :
    d.run (es₁ ++ es₂) = (d.run es₁).run es₂ :=
  List.foldl_append

/-- A courier that comes is never passed over. -/
theorem courier?_of_step?_eq_none {d : AssignmentDesk τ} {e : Event τ} (hs : d.step? e = none) :
    e.courier? = none := by
  cases e with
  | insert x => cases hs
  | _ => rfl

/-- **What every step keeps every run keeps.** A step that cannot be taken is
passed over, and brings no courier. -/
theorem run_induction {d : AssignmentDesk τ} {P : List (Event τ) → AssignmentDesk τ → Prop}
    (hstart : P [] d)
    (hstep : ∀ pre e d', P pre (d.run pre) → (d.run pre).Step e d' → P (pre ++ [e]) d')
    (hskip : ∀ pre e, P pre (d.run pre) → e.courier? = none → P (pre ++ [e]) (d.run pre))
    (events : List (Event τ)) : P events (d.run events) := by
  induction events using List.reverseRecOn with
  | nil => exact hstart
  | append_singleton pre e ih =>
    have hrun : d.run (pre ++ [e]) = ((d.run pre).step? e).getD (d.run pre) := run_append _ _ _
    rw [hrun]
    cases hs : (d.run pre).step? e with
    | none => exact hskip pre e ih (courier?_of_step?_eq_none hs)
    | some d' => exact hstep pre e d' ih (step_of_step? hs)

end CourierDispatch.AssignmentDesk
