import CourierDispatch.Proofs.Courier.DeskSteps
import Mathlib.Data.List.Nodup

/-!
# No courier is given twice

Giving a courier to an order takes two writes: the courier is marked as
taken, and the assignment is recorded. Between the two the courier belongs
to an order of which the store of assignments knows nothing yet. So what is
proved here is about the couriers that are *given* (`AssignmentDesk.Given`):
recorded, or claimed by a call that is about to record. A given courier is
stored and unavailable, and is given to one order.

That an order is given one courier only rests on the lock of the order: what
a call has found out about its order – that it has no assignment – stays
true until the call itself records one, because nobody else holds the lock
(`AssignmentDesk.Promise`).
-/

namespace CourierDispatch.AssignmentDesk

variable {τ : Type} [DecidableEq τ]

/-! ## The invariant -/

/-- **What a call may rely on at its stage**, given the store and the
locks. -/
def Promise (store : CourierStore) (locks : KeyedLock Uuid τ) (t : τ) (o : Uuid) :
    AssignStage → Prop
  | .locking => ∃ m, locks.visits.get? t = some ⟨o, m, .waiting⟩
  | .looking => locks.Holds t o
  | .claiming => locks.Holds t o ∧ store.findAssignment o = none
  | .recording _ => locks.Holds t o ∧ store.findAssignment o = none
  | .leaving r => ∀ a, r = .ok a → store.findAssignment o = some a
  | .returned r => ∀ a, r = .ok a → store.findAssignment o = some a

/-- **A courier is given to an order**: the assignment is recorded, or a call
has claimed the courier and is about to record it. -/
def Given (d : AssignmentDesk τ) (o c : Uuid) : Prop :=
  (∃ a, d.store.findAssignment o = some a ∧ a.courierId = c)
    ∨ ∃ t, d.calls.get? t = some ⟨o, .recording c⟩

/-- A courier is stored and cannot be given to an order. -/
def Taken (couriers : List Courier) (c : Uuid) : Prop :=
  ∃ x ∈ couriers, x.id = c ∧ x.isAvailable = false

/-- **What is true of the desk at every moment.** -/
structure Sound (d : AssignmentDesk τ) : Prop where
  /-- The locks are sound. -/
  locks : d.locks.Sound
  /-- Every call can rely on what its stage promises. -/
  promised : ∀ {t : τ} {c : AssignCall}, d.calls.get? t = some c →
    Promise d.store d.locks t c.orderId c.stage
  /-- Assignments stand under their own order. -/
  keyed : ∀ {o : Uuid} {a : Assignment}, d.store.findAssignment o = some a → a.orderId = o
  /-- No two couriers have one identifier. -/
  nodup : (d.store.couriers.map (·.id)).Nodup
  /-- A courier that is given to an order is taken. -/
  taken : ∀ {o c : Uuid}, d.Given o c → Taken d.store.couriers c
  /-- A courier is given to one order. -/
  apart : ∀ {o o' c : Uuid}, d.Given o c → d.Given o' c → o = o'

theorem sound_opened {couriers : List Courier} (h : (couriers.map (·.id)).Nodup) :
    (opened couriers : AssignmentDesk τ).Sound := by
  have hnone : ∀ o c, ¬ (opened couriers : AssignmentDesk τ).Given o c := by
    rintro o c (⟨a, ha, -⟩ | ⟨t, ht⟩)
    · simp [opened, CourierStore.findAssignment] at ha
    · simp [opened] at ht
  exact ⟨KeyedLock.Sound.empty, fun h => by simp [opened] at h,
    fun h => by simp [opened, CourierStore.findAssignment] at h, h,
    fun hg => absurd hg (hnone _ _), fun hg => absurd hg (hnone _ _)⟩

/-! ## What other calls do to a promise -/

/-- **A promise outlasts the steps of other calls**: they leave the dealings
of the call with its lock alone, keep every assignment, and record one only
for an order that the call does not hold. -/
theorem Promise.mono {store store' : CourierStore} {locks locks' : KeyedLock Uuid τ} {t : τ}
    {o : Uuid} {stage : AssignStage} (h : Promise store locks t o stage)
    (hvisit : locks'.visits.get? t = locks.visits.get? t)
    (hkept : ∀ a, store.findAssignment o = some a → store'.findAssignment o = some a)
    (hfree : locks.Holds t o → store.findAssignment o = none → store'.findAssignment o = none) :
    Promise store' locks' t o stage := by
  have hholds : locks.Holds t o → locks'.Holds t o := fun ⟨m, hm⟩ => ⟨m, by rw [hvisit, hm]⟩
  cases stage with
  | locking => exact h.imp fun m hm => by rw [hvisit, hm]
  | looking => exact hholds h
  | claiming => exact ⟨hholds h.1, hfree h.1 h.2⟩
  | recording c => exact ⟨hholds h.1, hfree h.1 h.2⟩
  | leaving r => exact fun a ha => hkept a (h a ha)
  | returned r => exact fun a ha => hkept a (h a ha)

/-! ## Couriers -/

theorem Taken.append {cs : List Courier} {c : Uuid} (h : Taken cs c) (xs : List Courier) :
    Taken (cs ++ xs) c := by
  obtain ⟨y, hy, hid, hav⟩ := h
  exact ⟨y, List.mem_append_left _ hy, hid, hav⟩

/-- Claiming a courier changes no identifier. -/
theorem map_id_of_claimFirst {cs cs' : List Courier} {x : Courier}
    (h : CourierStore.claimFirst cs = some (x, cs')) :
    cs'.map (·.id) = cs.map (·.id) := by
  obtain ⟨front, back, rfl, -, -, rfl⟩ := CourierStore.claimFirst_eq_some h
  simp

/-- Whoever was taken stays taken when another courier is claimed. -/
theorem Taken.of_claimFirst {cs cs' : List Courier} {x : Courier} {c : Uuid}
    (h : Taken cs c) (hclaim : CourierStore.claimFirst cs = some (x, cs')) : Taken cs' c := by
  obtain ⟨front, back, rfl, hx, -, rfl⟩ := CourierStore.claimFirst_eq_some hclaim
  obtain ⟨y, hy, hid, hav⟩ := h
  refine ⟨y, ?_, hid, hav⟩
  simp only [List.mem_append, List.mem_cons] at hy ⊢
  rcases hy with hy | rfl | hy
  · exact .inl hy
  · rw [hx] at hav
    cases hav
  · exact .inr (.inr hy)

/-- The courier that is claimed is taken afterwards. -/
theorem taken_of_claimFirst {cs cs' : List Courier} {x : Courier}
    (hclaim : CourierStore.claimFirst cs = some (x, cs')) : Taken cs' x.id := by
  obtain ⟨front, back, rfl, -, -, rfl⟩ := CourierStore.claimFirst_eq_some hclaim
  exact ⟨{ x with isAvailable := false }, by simp, rfl, rfl⟩

/-- The courier that is claimed was not taken before, since no other courier
has its identifier. -/
theorem not_taken_of_claimFirst {cs cs' : List Courier} {x : Courier}
    (hnodup : (cs.map (·.id)).Nodup) (hclaim : CourierStore.claimFirst cs = some (x, cs')) :
    ¬ Taken cs x.id := by
  obtain ⟨front, back, rfl, hx, -, -⟩ := CourierStore.claimFirst_eq_some hclaim
  rintro ⟨y, hy, hid, hav⟩
  have hyx : y = x := List.inj_on_of_nodup_map hnodup hy (by simp) hid
  rw [hyx, hx] at hav
  cases hav

/-! ## The invariant is kept -/

/-- Changing one call in a way that claims nothing gives nobody a courier. -/
theorem given_of_given_put {d : AssignmentDesk τ} {t : τ} {c : AssignCall} {store : CourierStore}
    (hclaimed : c.claimed? = none) (hstore : store.assignments = d.store.assignments)
    {locks : KeyedLock Uuid τ} {o x : Uuid}
    (h : Given { store, locks, calls := d.calls.put t c : AssignmentDesk τ } o x) :
    d.Given o x := by
  rcases h with ⟨a, ha, hx⟩ | ⟨t', ht'⟩
  · exact .inl ⟨a, by rwa [CourierStore.findAssignment, hstore] at ha, hx⟩
  · rw [Table.get?_put] at ht'
    split at ht'
    · obtain rfl := Option.some.inj ht'
      cases hclaimed
    · exact .inr ⟨t', ht'⟩

/-- **A call that goes on without touching the store keeps the desk sound**,
if its new stage promises no more than the call knows. -/
theorem Sound.goOn {d : AssignmentDesk τ} (h : d.Sound) {t : τ} {o : Uuid} {stage : AssignStage}
    {locks : KeyedLock Uuid τ} (hlocks : locks.Sound)
    (hothers : ∀ t', t' ≠ t → locks.visits.get? t' = d.locks.visits.get? t')
    (hclaimed : AssignCall.claimed? ⟨o, stage⟩ = none)
    (hpromise : Promise d.store locks t o stage) :
    Sound { d with locks, calls := d.calls.put t ⟨o, stage⟩ } := by
  have hgiven : ∀ {o' x}, Given { d with locks, calls := d.calls.put t ⟨o, stage⟩ } o' x →
      d.Given o' x := fun hg => given_of_given_put hclaimed rfl hg
  refine ⟨hlocks, ?_, h.keyed, h.nodup, fun hg => h.taken (hgiven hg),
    fun hg hg' => h.apart (hgiven hg) (hgiven hg')⟩
  intro t' c hc
  simp only [Table.get?_put] at hc
  split at hc
  · next ht =>
    obtain rfl := Option.some.inj hc
    exact ht ▸ hpromise
  · next ht => exact (h.promised hc).mono (hothers t' ht) (fun _ ha => ha) (fun _ hn => hn)

/-- **Claiming keeps the desk sound**: the courier was nobody's, and is now
given to the order of the call. -/
theorem Sound.claimed {d : AssignmentDesk τ} (h : d.Sound) {t : τ} {o : Uuid} {x : Courier}
    {couriers : List Courier} (hcall : d.calls.get? t = some ⟨o, .claiming⟩)
    (hclaim : CourierStore.claimFirst d.store.couriers = some (x, couriers)) :
    Sound { d with store := { d.store with couriers }, calls := d.calls.put t ⟨o, .recording x.id⟩ } := by
  have hpromise : d.locks.Holds t o ∧ d.store.findAssignment o = none := h.promised hcall
  have hgiven : ∀ {o' c}, Given { d with
        store := { d.store with couriers }
        calls := d.calls.put t ⟨o, .recording x.id⟩ } o' c →
      d.Given o' c ∨ (o' = o ∧ c = x.id) := by
    rintro o' c (ha | ⟨t', ht'⟩)
    · exact .inl (.inl ha)
    · simp only [Table.get?_put] at ht'
      split at ht'
      · simp only [Option.some.injEq, AssignCall.mk.injEq, AssignStage.recording.injEq] at ht'
        exact .inr ⟨ht'.1.symm, ht'.2.symm⟩
      · exact .inl (.inr ⟨t', ht'⟩)
  have hnew : ∀ o', ¬ d.Given o' x.id := fun o' hg =>
    not_taken_of_claimFirst h.nodup hclaim (h.taken hg)
  refine ⟨h.locks, ?_, h.keyed, ?_, ?_, ?_⟩
  · intro t' c hc
    simp only [Table.get?_put] at hc
    split at hc
    · next ht =>
      obtain rfl := Option.some.inj hc
      exact ht ▸ hpromise
    · exact (h.promised hc).mono rfl (fun _ ha => ha) (fun _ hn => hn)
  · rw [map_id_of_claimFirst hclaim]
    exact h.nodup
  · intro o' c hg
    rcases hgiven hg with hg | ⟨-, rfl⟩
    · exact (h.taken hg).of_claimFirst hclaim
    · exact taken_of_claimFirst hclaim
  · intro o₁ o₂ c h₁ h₂
    rcases hgiven h₁ with old₁ | ⟨ho₁, hc₁⟩ <;> rcases hgiven h₂ with old₂ | ⟨ho₂, hc₂⟩
    · exact h.apart old₁ old₂
    · exact absurd (hc₂ ▸ old₁) (hnew _)
    · exact absurd (hc₁ ▸ old₂) (hnew _)
    · rw [ho₁, ho₂]

/-- What is recorded was claimed before, so recording gives nobody a courier. -/
theorem given_of_given_recorded {d : AssignmentDesk τ} {t : τ} {o c : Uuid} {now : Instant}
    (hcall : d.calls.get? t = some ⟨o, .recording c⟩) {o' c' : Uuid}
    (h : Given { d with
      store := d.store.recordAssignment ⟨o, c, now⟩
      calls := d.calls.put t ⟨o, .leaving (.ok ⟨o, c, now⟩)⟩ } o' c') : d.Given o' c' := by
  rcases h with ⟨a, ha, hc'⟩ | ⟨t', ht'⟩
  · simp only [CourierStore.findAssignment, CourierStore.recordAssignment, Table.get?_put] at ha
    split at ha
    · next ho =>
      obtain rfl := Option.some.inj ha
      exact .inr ⟨t, by rw [hcall, ho, ← hc']⟩
    · exact .inl ⟨a, ha, hc'⟩
  · simp only [Table.get?_put] at ht'
    split at ht'
    · simp at ht'
    · exact .inr ⟨t', ht'⟩

/-- **Recording keeps the desk sound**: the courier was given to the order
already, and nobody else holds the lock of the order. -/
theorem Sound.recorded {d : AssignmentDesk τ} (h : d.Sound) {t : τ} {o c : Uuid} (now : Instant)
    (hcall : d.calls.get? t = some ⟨o, .recording c⟩) :
    Sound { d with
      store := d.store.recordAssignment ⟨o, c, now⟩
      calls := d.calls.put t ⟨o, .leaving (.ok ⟨o, c, now⟩)⟩ } := by
  obtain ⟨hholds, hnone⟩ : d.locks.Holds t o ∧ d.store.findAssignment o = none := h.promised hcall
  have hfind : ∀ o', (d.store.recordAssignment ⟨o, c, now⟩).findAssignment o'
      = if o' = o then some ⟨o, c, now⟩ else d.store.findAssignment o' :=
    fun o' => Table.get?_put _ _ _ _
  have hgiven : ∀ {o' c'}, Given { d with
        store := d.store.recordAssignment ⟨o, c, now⟩
        calls := d.calls.put t ⟨o, .leaving (.ok ⟨o, c, now⟩)⟩ } o' c' → d.Given o' c' :=
    given_of_given_recorded hcall
  refine ⟨h.locks, ?_, ?_, h.nodup, fun hg => h.taken (hgiven hg),
    fun hg hg' => h.apart (hgiven hg) (hgiven hg')⟩
  · intro t' c' hc'
    simp only [Table.get?_put] at hc'
    split at hc'
    · obtain rfl := Option.some.inj hc'
      intro a ha
      rw [hfind, if_pos rfl]
      exact congrArg some (Except.ok.inj ha)
    · next ht =>
      refine (h.promised hc').mono rfl ?_ ?_
      · intro a ha
        have hne : c'.orderId ≠ o := fun e => by rw [e, hnone] at ha; cases ha
        rw [hfind, if_neg hne, ha]
      · intro hholds' hn
        -- two holders of the lock of one order would be one call
        have hne : c'.orderId ≠ o := fun e => ht (h.locks.holder_unique (e ▸ hholds') hholds)
        rw [hfind, if_neg hne, hn]
  · intro o' a ha
    rw [hfind] at ha
    split at ha
    · next ho =>
      obtain rfl := Option.some.inj ha
      exact ho.symm
    · exact h.keyed ha

/-- A courier under an identifier of its own keeps the desk sound. -/
theorem Sound.inserted {d : AssignmentDesk τ} (h : d.Sound) {x : Courier}
    (hnew : x.id ∉ d.store.couriers.map (·.id)) :
    Sound { d with store := d.store.insertCourier x } := by
  refine ⟨h.locks, h.promised, h.keyed, ?_, fun hg => (h.taken hg).append [x], h.apart⟩
  show ((d.store.couriers ++ [x]).map (·.id)).Nodup
  rw [List.map_append, List.nodup_append]
  refine ⟨h.nodup, by simp, ?_⟩
  rintro a ha b hb rfl
  obtain rfl : a = x.id := by simpa using hb
  exact hnew ha

/-- **Every step keeps the desk sound**, if a courier that comes is not there
yet. -/
theorem Sound.step {d d' : AssignmentDesk τ} {e : Event τ} (h : d.Sound)
    (hnew : ∀ x, e.courier? = some x → x.id ∉ d.store.couriers.map (·.id)) (hs : d.Step e d') :
    d'.Sound := by
  cases hs with
  | inserted x => exact h.inserted (hnew x rfl)
  | called _ hlock =>
    exact h.goOn (h.locks.step hlock) (fun _ ht => KeyedLock.visits_step hlock ht) rfl
      (KeyedLock.waiting_of_ask hlock)
  | locked hcall hlock =>
    obtain ⟨m, hm⟩ := h.promised hcall
    exact h.goOn (h.locks.step hlock) (fun _ ht => KeyedLock.visits_step hlock ht) rfl
      (KeyedLock.holds_of_acquire hm hlock)
  | found hcall ha =>
    refine h.goOn h.locks (fun _ _ => rfl) rfl ?_
    intro b hb
    rw [ha, Except.ok.inj hb]
  | missing hcall hnone => exact h.goOn h.locks (fun _ _ => rfl) rfl ⟨h.promised hcall, hnone⟩
  | claimed hcall hclaim => exact h.claimed hcall hclaim
  | refused hcall hclaim => exact h.goOn h.locks (fun _ _ => rfl) rfl (fun a ha => by cases ha)
  | recorded now hcall => exact h.recorded now hcall
  | @unlocked t _ _ _ _ _ hcall hlock _ hle =>
    refine ⟨h.locks.step hlock, ?_, h.keyed, h.nodup, h.taken, h.apart⟩
    intro t' c hc
    by_cases ht : t' = t
    · subst ht
      obtain rfl := Option.some.inj (hcall.symm.trans hc)
      exact h.promised hcall
    · exact (h.promised hc).mono (KeyedLock.visits_step hlock (hle ▸ ht)) (fun _ ha => ha)
        (fun _ hn => hn)
  | returned hcall hlock =>
    exact h.goOn (h.locks.step hlock) (fun _ ht => KeyedLock.visits_step hlock ht) rfl
      (h.promised hcall)

/-! ## Counting couriers -/

/-- The couriers that are available, assigned, or claimed and not yet
recorded. -/
def balance (d : AssignmentDesk τ) : Nat :=
  d.store.availableCount + d.store.assignments.size + d.claimedCount

omit [DecidableEq τ] in
/-- Claiming a courier leaves one fewer available. -/
theorem countP_of_claimFirst {cs cs' : List Courier} {x : Courier}
    (h : CourierStore.claimFirst cs = some (x, cs')) :
    cs.countP (·.isAvailable) = cs'.countP (·.isAvailable) + 1 := by
  obtain ⟨front, back, rfl, hx, -, rfl⟩ := CourierStore.claimFirst_eq_some h
  simp only [List.countP_append, List.countP_cons, hx, if_true]
  simp
  omega

/-- A call that claims nothing, before and after it goes on, is not counted. -/
theorem countP_claimed_put {calls : Table τ AssignCall} {t : τ} {c : AssignCall}
    (hold : ∀ b, calls.get? t = some b → b.claimed? = none) (hnew : c.claimed? = none) :
    (calls.put t c).values.countP (·.claimed?.isSome)
      = calls.values.countP (·.claimed?.isSome) := by
  have hcount := Table.countP_values_put (·.claimed?.isSome) calls t c
  cases hc : calls.get? t with
  | none => simpa [hc, hnew] using hcount
  | some b => simpa [hc, hnew, hold b hc] using hcount

/-- **The balance changes only by couriers that come.** -/
theorem Sound.balance_step {d d' : AssignmentDesk τ} {e : Event τ} (h : d.Sound)
    (hs : d.Step e d') :
    d'.balance = d.balance + e.courier?.toList.countP (·.isAvailable) := by
  unfold balance claimedCount CourierStore.availableCount
  cases hs with
  | inserted x =>
    simp only [CourierStore.insertCourier, List.countP_append, Event.courier?, Option.toList_some]
    omega
  | called hnew _ =>
    rw [countP_claimed_put (fun b hb => by rw [hnew] at hb; cases hb) rfl]
    rfl
  | locked hcall _ =>
    rw [countP_claimed_put (fun b hb => by rw [hcall] at hb; cases hb; rfl) rfl]
    rfl
  | found hcall _ =>
    rw [countP_claimed_put (fun b hb => by rw [hcall] at hb; cases hb; rfl) rfl]
    rfl
  | missing hcall _ =>
    rw [countP_claimed_put (fun b hb => by rw [hcall] at hb; cases hb; rfl) rfl]
    rfl
  | @claimed t o x _ hcall hclaim =>
    have hcount := Table.countP_values_put (·.claimed?.isSome) d.calls t ⟨o, .recording x.id⟩
    rw [hcall] at hcount
    change _ + 0 = _ + 1 at hcount
    have havail := countP_of_claimFirst hclaim
    simp only [Event.courier?, Option.toList_none, List.countP_nil]
    omega
  | refused hcall _ =>
    rw [countP_claimed_put (fun b hb => by rw [hcall] at hb; cases hb; rfl) rfl]
    rfl
  | @recorded t o c now hcall =>
    have hcount := Table.countP_values_put (·.claimed?.isSome) d.calls t
      ⟨o, .leaving (.ok ⟨o, c, now⟩)⟩
    rw [hcall] at hcount
    change _ + 1 = _ + 0 at hcount
    -- the order had no assignment, so the table of assignments grows
    have hnone : d.store.assignments.get? o = none := (h.promised hcall).2
    have hsize := Table.size_put_of_get?_eq_none hnone (⟨o, c, now⟩ : Assignment)
    simp only [CourierStore.recordAssignment, Event.courier?, Option.toList_none, List.countP_nil]
    omega
  | unlocked hcall _ he _ =>
    cases e with
    | insert x => cases he
    | _ => rfl
  | returned hcall _ =>
    rw [countP_claimed_put (fun b hb => by rw [hcall] at hb; cases hb; rfl) rfl]
    rfl

/-! ## What stays as it is -/

/-- A step changes no identifier and adds that of the courier that comes. -/
theorem map_id_step {d d' : AssignmentDesk τ} {e : Event τ} (hs : d.Step e d') :
    d'.store.couriers.map (·.id)
      = d.store.couriers.map (·.id) ++ e.courier?.toList.map (·.id) := by
  cases hs with
  | inserted x => simp [CourierStore.insertCourier, Event.courier?]
  | claimed _ hclaim => simpa [Event.courier?] using map_id_of_claimFirst hclaim
  | unlocked _ _ he _ =>
    cases e with
    | insert x => cases he
    | _ => simp [Event.courier?]
  | _ => simp [Event.courier?, CourierStore.recordAssignment]

/-- **An assignment, once recorded, stays.** -/
theorem Sound.findAssignment_step {d d' : AssignmentDesk τ} {e : Event τ} (h : d.Sound)
    (hs : d.Step e d') {o : Uuid} {a : Assignment} (ha : d.store.findAssignment o = some a) :
    d'.store.findAssignment o = some a := by
  cases hs with
  | @recorded t o' c now hcall =>
    have hnone : d.store.findAssignment o' = none := (h.promised hcall).2
    have hne : o ≠ o' := fun e => by rw [e, hnone] at ha; cases ha
    show (d.store.assignments.put o' _).get? o = some a
    rw [Table.get?_put_of_ne _ hne]
    exact ha
  | _ => exact ha

/-- **A call is committed**: it has claimed a courier, or its result is an
assignment. -/
def Committed (d : AssignmentDesk τ) (t : τ) : Prop :=
  ∃ c, d.calls.get? t = some c ∧ (c.claimed?.isSome = true ∨ ∃ a, c.result? = some (.ok a))

/-- A step of a call that changes the store commits the call. -/
theorem store_eq_or_committed {d d' : AssignmentDesk τ} {e : Event τ} (hs : d.Step e d') {t : τ}
    (ht : e.task? = some t) : d'.store = d.store ∨ d'.Committed t := by
  cases hs with
  | inserted x => cases ht
  | claimed hcall hclaim =>
    obtain rfl := Option.some.inj ht
    exact .inr ⟨_, Table.get?_put_self _ _ _, .inl rfl⟩
  | recorded now hcall =>
    obtain rfl := Option.some.inj ht
    exact .inr ⟨_, Table.get?_put_self _ _ _, .inr ⟨_, rfl⟩⟩
  | _ => exact .inl rfl

/-- **A call that is committed stays committed**: there is no way back from a
claimed courier to a refusal. -/
theorem Committed.step {d d' : AssignmentDesk τ} {e : Event τ} {t : τ} (h : d.Committed t)
    (hs : d.Step e d') : d'.Committed t := by
  obtain ⟨c, hc, hcom⟩ := h
  -- a call that is not committed takes the step, or it is another call
  have other : ∀ {t' c'} b, d.calls.get? t' = some b → ¬ (b.claimed?.isSome = true ∨
      ∃ a, b.result? = some (.ok a)) → (d.calls.put t' c').get? t = some c := by
    intro t' c' b hb hno
    have hne : t ≠ t' := fun e => hno (by rw [e, hb] at hc; cases hc; exact hcom)
    rw [Table.get?_put_of_ne _ hne, hc]
  cases hs with
  | inserted x => exact ⟨c, hc, hcom⟩
  | @called t' _ _ hnew _ =>
    have hne : t ≠ t' := fun e => by rw [e, hnew] at hc; cases hc
    exact ⟨c, by rw [← hc]; exact Table.get?_put_of_ne _ hne _, hcom⟩
  | locked hcall _ => exact ⟨c, other _ hcall (by simp [AssignCall.claimed?, AssignCall.result?]), hcom⟩
  | found hcall _ => exact ⟨c, other _ hcall (by simp [AssignCall.claimed?, AssignCall.result?]), hcom⟩
  | missing hcall _ => exact ⟨c, other _ hcall (by simp [AssignCall.claimed?, AssignCall.result?]), hcom⟩
  | claimed hcall _ => exact ⟨c, other _ hcall (by simp [AssignCall.claimed?, AssignCall.result?]), hcom⟩
  | refused hcall _ => exact ⟨c, other _ hcall (by simp [AssignCall.claimed?, AssignCall.result?]), hcom⟩
  | @recorded t' o x now _ =>
    by_cases ht : t = t'
    · exact ⟨_, by rw [ht]; exact Table.get?_put_self _ _ _, .inr ⟨⟨o, x, now⟩, rfl⟩⟩
    · exact ⟨c, by rw [← hc]; exact Table.get?_put_of_ne _ ht _, hcom⟩
  | unlocked _ _ _ _ => exact ⟨c, hc, hcom⟩
  | @returned t' _ r _ hcall _ =>
    by_cases ht : t = t'
    · obtain rfl := Option.some.inj (hc.symm.trans (ht ▸ hcall))
      refine ⟨_, by rw [ht]; exact Table.get?_put_self _ _ _, ?_⟩
      exact hcom.imp id (fun ⟨a, ha⟩ => ⟨a, ha⟩)
    · exact ⟨c, by rw [← hc]; exact Table.get?_put_of_ne _ ht _, hcom⟩

end CourierDispatch.AssignmentDesk
