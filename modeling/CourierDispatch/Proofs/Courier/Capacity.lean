import CourierDispatch.Proofs.Courier.AssignmentRuns
import Mathlib.Data.List.Dedup

/-!
# Couriers are used up exactly

With some couriers available and calls for some orders, as many orders get a
courier as there can: all of them, or as many as there are couriers. This is
more than a count. A call that is made twice must not use up two couriers,
and a call that is refused must not have come at a moment when a courier was
still to be had.

The second is what needs an argument. When a call is refused every courier
is taken, but some of them may be taken by calls that have not recorded
anything yet. That does not matter as long as nobody comes: from that moment
on no courier can be claimed for any order, and for the order of the call
none has been claimed before, since the call holds its lock
(`AssignmentDesk.TurnedAway`). So an order that is refused once is refused
for good, and couriers are left over only where nobody was refused.
-/

namespace CourierDispatch.AssignmentDesk

variable {τ : Type} [DecidableEq τ]

/-! ## The calls of a run -/

/-- The call that is made with a step, and its order, if one is made. -/
def Event.asked? : Event τ → Option (τ × Uuid)
  | call task orderId => some (task, orderId)
  | _ => none

/-- The calls that are made in the course of steps, with their orders. -/
def asked (events : List (Event τ)) : List (τ × Uuid) := events.filterMap Event.asked?

/-- The orders that are asked for in the course of steps, each once. -/
def ordersAsked (events : List (Event τ)) : List Uuid := ((asked events).map Prod.snd).dedup

omit [DecidableEq τ] in
theorem asked_concat (es : List (Event τ)) (e : Event τ) :
    asked (es ++ [e]) = asked es ++ e.asked?.toList := by
  unfold asked
  rw [List.filterMap_append]
  cases h : e.asked? <;> simp [h]

omit [DecidableEq τ] in
theorem mem_ordersAsked {events : List (Event τ)} {o : Uuid} :
    o ∈ ordersAsked events ↔ ∃ t, (t, o) ∈ asked events := by
  unfold ordersAsked
  rw [List.mem_dedup, List.mem_map]
  exact ⟨fun ⟨⟨t, _⟩, h, heq⟩ => ⟨t, heq ▸ h⟩, fun ⟨t, h⟩ => ⟨_, h, rfl⟩⟩

/-- A call that is listed after a step was listed before under the same
order, or is made with the step. -/
theorem Step.calls_cases {d d' : AssignmentDesk τ} {e : Event τ} (hs : d.Step e d') {t : τ}
    {c : AssignCall} (hc : d'.calls.get? t = some c) :
    (∃ b, d.calls.get? t = some b ∧ b.orderId = c.orderId) ∨ e.asked? = some (t, c.orderId) := by
  -- the call that takes the step goes on, and the others are left alone
  have put : ∀ {t' : τ} {o : Uuid} {stage stage' : AssignStage},
      d.calls.get? t' = some ⟨o, stage⟩ → (d.calls.put t' ⟨o, stage'⟩).get? t = some c →
      ∃ b, d.calls.get? t = some b ∧ b.orderId = c.orderId := by
    intro t' o stage stage' hb hput
    rw [Table.get?_put] at hput
    split at hput
    · next ht =>
      obtain rfl := Option.some.inj hput
      exact ⟨⟨o, stage⟩, ht ▸ hb, rfl⟩
    · exact ⟨c, hput, rfl⟩
  cases hs with
  | inserted x => exact .inl ⟨c, hc, rfl⟩
  | @called t' o _ hnew _ =>
    rw [Table.get?_put] at hc
    split at hc
    · next ht =>
      obtain rfl := Option.some.inj hc
      exact .inr (by rw [ht]; rfl)
    · exact .inl ⟨c, hc, rfl⟩
  | locked hcall _ => exact .inl (put hcall hc)
  | found hcall _ => exact .inl (put hcall hc)
  | missing hcall _ => exact .inl (put hcall hc)
  | claimed hcall _ => exact .inl (put hcall hc)
  | refused hcall _ => exact .inl (put hcall hc)
  | recorded now hcall => exact .inl (put hcall hc)
  | unlocked _ _ _ _ => exact .inl ⟨c, hc, rfl⟩
  | returned hcall _ => exact .inl (put hcall hc)

/-- **Every call that is listed was made** for its order. -/
theorem mem_asked_of_run (couriers : List Courier) (events : List (Event τ)) {t : τ}
    {c : AssignCall} (hc : ((opened couriers).run events).calls.get? t = some c) :
    (t, c.orderId) ∈ asked events := by
  revert t c
  refine run_induction (P := fun es d => ∀ {t : τ} {c : AssignCall}, d.calls.get? t = some c →
    (t, c.orderId) ∈ asked es) (fun h => by simp [opened] at h) ?_ ?_ events
  · intro pre e d' ih hs t c hc
    rw [asked_concat]
    rcases hs.calls_cases hc with ⟨b, hb, heq⟩ | hasked
    · exact List.mem_append_left _ (heq ▸ ih hb)
    · rw [hasked]
      exact List.mem_append_right _ (List.mem_singleton_self _)
  · intro pre e ih _ t c hc
    rw [asked_concat]
    exact List.mem_append_left _ (ih hc)

/-- **Only orders that were asked for are given a courier.** -/
theorem asked_of_findAssignment_run (couriers : List Courier) (events : List (Event τ)) {o : Uuid}
    {a : Assignment} (ha : ((opened couriers).run events).store.findAssignment o = some a) :
    ∃ t, (t, o) ∈ asked events := by
  revert o a
  refine run_induction (P := fun es d => ∀ {o : Uuid} {a : Assignment},
    d.store.findAssignment o = some a → ∃ t, (t, o) ∈ asked es) ?_ ?_ ?_ events
  · intro o a ha
    simp [opened, CourierStore.findAssignment] at ha
  · intro pre e d' ih hs o a ha
    have earlier : (∃ t, (t, o) ∈ asked pre) → ∃ t, (t, o) ∈ asked (pre ++ [e]) := by
      rintro ⟨t, ht⟩
      exact ⟨t, by rw [asked_concat]; exact List.mem_append_left _ ht⟩
    cases hs with
    | @recorded t o' c now hcall =>
      simp only [CourierStore.findAssignment, CourierStore.recordAssignment, Table.get?_put] at ha
      split at ha
      · next ho => exact earlier ⟨t, ho ▸ mem_asked_of_run couriers pre hcall⟩
      · exact earlier (ih ha)
    | _ => exact earlier (ih ha)
  · intro pre e ih _ o a ha
    obtain ⟨t, ht⟩ := ih ha
    exact ⟨t, by rw [asked_concat]; exact List.mem_append_left _ ht⟩

/-! ## Orders that are turned away -/

/-- **An order is turned away**: no courier is available, and none is given
to it. -/
def TurnedAway (d : AssignmentDesk τ) (o : Uuid) : Prop :=
  d.store.availableCount = 0 ∧ ∀ c, ¬ d.Given o c

/-- With no courier available, a step gives nobody a courier. -/
theorem given_of_step {d d' : AssignmentDesk τ} {e : Event τ} (hs : d.Step e d')
    (hfull : d.store.availableCount = 0) {o c : Uuid} (hg : d'.Given o c) : d.Given o c := by
  cases hs with
  | inserted x => exact hg
  | claimed _ hclaim =>
    have := countP_of_claimFirst hclaim
    unfold CourierStore.availableCount at hfull
    omega
  | recorded now hcall => exact given_of_given_recorded hcall hg
  | unlocked _ _ _ _ => exact hg
  | _ => exact given_of_given_put rfl rfl hg

/-- **Who is turned away stays turned away**, as long as no courier comes. -/
theorem TurnedAway.step {d d' : AssignmentDesk τ} {e : Event τ} {o : Uuid} (h : d.TurnedAway o)
    (hnobody : e.courier? = none) (hs : d.Step e d') : d'.TurnedAway o := by
  refine ⟨?_, fun c hg => h.2 c (given_of_step hs h.1 hg)⟩
  cases hs with
  | inserted x => cases hnobody
  | claimed _ hclaim =>
    have hfull := h.1
    have := countP_of_claimFirst hclaim
    unfold CourierStore.availableCount at hfull
    omega
  | _ => exact h.1

/-- A call that finds every courier taken turns its order away: it holds the
lock of the order, so nobody else is about to record a courier for it. -/
theorem Sound.turnedAway {d : AssignmentDesk τ} (h : d.Sound) {t : τ} {o : Uuid}
    (hcall : d.calls.get? t = some ⟨o, .claiming⟩)
    (hclaim : CourierStore.claimFirst d.store.couriers = none) : d.TurnedAway o := by
  obtain ⟨hholds, hnone⟩ : d.locks.Holds t o ∧ d.store.findAssignment o = none := h.promised hcall
  refine ⟨List.countP_eq_zero.2 fun x hx => ?_, ?_⟩
  · rw [CourierStore.claimFirst_eq_none hclaim x hx]
    exact Bool.false_ne_true
  · rintro c (⟨a, ha, -⟩ | ⟨t', ht'⟩)
    · rw [hnone] at ha
      cases ha
    · obtain ⟨hholds', -⟩ : d.locks.Holds t' o ∧ d.store.findAssignment o = none := h.promised ht'
      rw [h.locks.holder_unique hholds' hholds, hcall] at ht'
      cases ht'

/-- **Refusals are for good**: a call with an error for its result was told
that no courier is available, and its order is turned away. -/
def RefusedForGood (d : AssignmentDesk τ) : Prop :=
  ∀ ⦃t : τ⦄ ⦃c : AssignCall⦄ ⦃err : ServiceError⦄, d.calls.get? t = some c →
    c.result? = some (.error err) → err = .noCourierAvailable c.orderId ∧ d.TurnedAway c.orderId

theorem RefusedForGood.step {d d' : AssignmentDesk τ} {e : Event τ} (h : d.RefusedForGood)
    (hsound : d.Sound) (hnobody : e.courier? = none) (hs : d.Step e d') : d'.RefusedForGood := by
  intro t c err hc hr
  -- a call that was refused before the step
  have old : ∀ {b : AssignCall}, d.calls.get? t = some b → b.orderId = c.orderId →
      b.result? = some (.error err) → err = .noCourierAvailable c.orderId
        ∧ d'.TurnedAway c.orderId := by
    intro b hb heq hbr
    obtain ⟨herr, haway⟩ := h hb hbr
    exact ⟨heq ▸ herr, heq ▸ haway.step hnobody hs⟩
  -- a call that goes on without being refused
  have goesOn : ∀ {t' : τ} {c' : AssignCall}, c'.result? ≠ some (.error err) →
      (d.calls.put t' c').get? t = some c → err = .noCourierAvailable c.orderId
        ∧ d'.TurnedAway c.orderId := by
    intro t' c' hno hput
    rw [Table.get?_put] at hput
    split at hput
    · obtain rfl := Option.some.inj hput
      exact absurd hr hno
    · exact old hput rfl hr
  cases hs with
  | inserted x => cases hnobody
  | called _ _ => exact goesOn (by simp [AssignCall.result?]) hc
  | locked _ _ => exact goesOn (by simp [AssignCall.result?]) hc
  | found _ _ => exact goesOn (by simp [AssignCall.result?]) hc
  | missing _ _ => exact goesOn (by simp [AssignCall.result?]) hc
  | claimed _ _ => exact goesOn (by simp [AssignCall.result?]) hc
  | recorded _ _ => exact goesOn (by simp [AssignCall.result?]) hc
  | unlocked _ _ _ _ => exact old hc rfl hr
  | @refused t' o hcall hclaim =>
    simp only [Table.get?_put] at hc
    split at hc
    · obtain rfl := Option.some.inj hc
      obtain rfl : _ = err := Except.error.inj (Option.some.inj hr)
      refine ⟨rfl, (hsound.turnedAway hcall hclaim).step hnobody (.refused hcall hclaim)⟩
    · exact old hc rfl hr
  | @returned t' o r _ hcall _ =>
    simp only [Table.get?_put] at hc
    split at hc
    · next ht =>
      obtain rfl := Option.some.inj hc
      exact old (b := ⟨o, .leaving r⟩) (ht ▸ hcall) rfl hr
    · exact old hc rfl hr

/-- **Along a run to which no courier comes refusals are for good.** -/
theorem refusedForGood_run {couriers : List Courier} (hdistinct : (couriers.map (·.id)).Nodup)
    (events : List (Event τ)) (hnobody : inserted events = []) :
    ((opened couriers).run events).RefusedForGood := by
  revert hnobody
  refine run_induction (P := fun es d => inserted es = [] → d.RefusedForGood)
    (fun _ _ _ _ hc => by simp [opened] at hc) ?_ ?_ events
  · intro pre e d' ih hs hnobody
    rw [inserted_append, List.append_eq_nil_iff, inserted_singleton] at hnobody
    obtain ⟨hpre, he⟩ := hnobody
    have hfresh : ((couriers ++ inserted pre).map (·.id)).Nodup := by
      rwa [hpre, List.append_nil]
    have hsound := (sound_run pre hfresh).1
    exact RefusedForGood.step (ih hpre) hsound (by simpa using he) hs
  · intro pre e ih _ hnobody
    rw [inserted_append, List.append_eq_nil_iff] at hnobody
    exact ih hnobody.1

/-! ## The main statement -/

/-- Once every call has returned, none has a courier that it has not
recorded. -/
theorem claimedCount_eq_zero {d : AssignmentDesk τ}
    (hreturned : ∀ t c, d.calls.get? t = some c → ∃ r, c.stage = .returned r) :
    d.claimedCount = 0 := by
  unfold claimedCount
  rw [List.countP_eq_zero]
  intro c hc
  obtain ⟨t, ht⟩ := (Table.mem_values_iff _ _).1 hc
  obtain ⟨r, hr⟩ := hreturned t c ht
  rw [AssignCall.claimed?, hr]
  exact Bool.false_ne_true

omit [DecidableEq τ] in
/-- An order has an assignment exactly if it is a key of the table of
assignments. -/
theorem isSome_findAssignment_iff {s : CourierStore} {o : Uuid} :
    (s.findAssignment o).isSome ↔ o ∈ s.assignments.keys := by
  have hnone := s.assignments.get?_eq_none_iff o
  rw [CourierStore.findAssignment, Option.isSome_iff_ne_none]
  exact ⟨fun h => Classical.not_not.1 (mt hnone.2 h), fun h hn => hnone.1 hn h⟩

/-- Of the orders in a list with all that have an assignment, as many have one as
the table of assignments has keys. -/
theorem length_assigned {s : CourierStore} {orders : List Uuid} (hnodup : orders.Nodup)
    (hall : ∀ o a, s.findAssignment o = some a → o ∈ orders) :
    (orders.filter fun o => (s.findAssignment o).isSome).length = s.assignments.size := by
  have hperm : (orders.filter fun o => (s.findAssignment o).isSome).Perm s.assignments.keys := by
    refine (List.perm_ext_iff_of_nodup (hnodup.filter _) s.assignments.nodup).2 fun o => ?_
    rw [List.mem_filter]
    refine ⟨fun h => isSome_findAssignment_iff.1 h.2, fun h => ?_⟩
    have hsome := isSome_findAssignment_iff.2 h
    obtain ⟨a, ha⟩ := Option.isSome_iff_exists.1 hsome
    exact ⟨hall o a ha, hsome⟩
  rw [hperm.length_eq]
  exact List.length_map _

/-- **A call that has returned has an assignment for its order, or its order is
turned away.** -/
theorem returned_cases {d : AssignmentDesk τ} (hsound : d.Sound) (hrefused : d.RefusedForGood)
    {t : τ} {o : Uuid} {r : Except ServiceError Assignment}
    (hr : d.calls.get? t = some ⟨o, .returned r⟩) :
    (∃ a, r = .ok a ∧ d.store.findAssignment o = some a)
      ∨ (r = .error (.noCourierAvailable o) ∧ d.TurnedAway o) := by
  cases r with
  | ok a => exact .inl ⟨a, rfl, hsound.promised hr a rfl⟩
  | error err =>
    obtain ⟨herr, haway⟩ := hrefused hr rfl
    exact .inr ⟨congrArg Except.error herr, haway⟩

section count

variable {d : AssignmentDesk τ} {orders : List Uuid}

/-- An order that is turned away is one of the orders without an assignment. -/
theorem length_assigned_lt {o : Uuid} (ho : o ∈ orders) (haway : d.TurnedAway o) :
    (orders.filter fun o => (d.store.findAssignment o).isSome).length < orders.length := by
  refine List.length_filter_lt_length_iff_exists.2 ⟨o, ho, fun hsome => ?_⟩
  obtain ⟨a, ha⟩ := Option.isSome_iff_exists.1 hsome
  exact haway.2 a.courierId (.inl ⟨a, ha, rfl⟩)

/-- **As many orders have an assignment as can**, if each of them has one or is
turned away: none is turned away before all couriers are gone. -/
theorem length_assigned_eq_min {capacity : Nat}
    (hall : d.store.availableCount
      + (orders.filter fun o => (d.store.findAssignment o).isSome).length = capacity)
    (hevery : ∀ o ∈ orders, (∃ a, d.store.findAssignment o = some a) ∨ d.TurnedAway o) :
    (orders.filter fun o => (d.store.findAssignment o).isSome).length
      = min capacity orders.length := by
  by_cases haway : ∃ o ∈ orders, d.TurnedAway o
  · obtain ⟨o, ho, hturned⟩ := haway
    have hlt := length_assigned_lt ho hturned
    rw [hturned.1, Nat.zero_add] at hall
    rw [hall] at hlt ⊢
    exact (Nat.min_eq_left (Nat.le_of_lt hlt)).symm
  · have hfull : (orders.filter fun o => (d.store.findAssignment o).isSome) = orders := by
      refine List.filter_eq_self.2 fun o ho => ?_
      rcases hevery o ho with ha | hturned
      · exact Option.isSome_iff_exists.2 ha
      · exact absurd ⟨o, ho, hturned⟩ haway
    rw [hfull] at hall ⊢
    exact (Nat.min_eq_right (hall ▸ Nat.le_add_left _ _)).symm

end count

/-- **Couriers are used up exactly.** Let a desk be opened with couriers, and
let calls be made for some orders, any number of times each and with their
steps in any order, while no courier comes. When all calls have returned, as
many orders have an assignment as can, and all other couriers are still
available; an order without an assignment has been refused by each of its
calls; and if there are couriers enough no call has failed. -/
theorem capacity_used (couriers : List Courier) (events : List (Event τ))
    (hdistinct : (couriers.map (·.id)).Nodup) (hnobody : inserted events = [])
    (hreturned : ∀ t o, (t, o) ∈ asked events →
      ∃ r, ((opened couriers).run events).calls.get? t = some ⟨o, .returned r⟩) :
    let d := (opened couriers).run events
    let capacity := couriers.countP (·.isAvailable)
    let orders := ordersAsked events
    (orders.filter fun o => (d.store.findAssignment o).isSome).length = min capacity orders.length
      ∧ (∀ o a, d.store.findAssignment o = some a → o ∈ orders)
      ∧ d.store.availableCount = capacity - min capacity orders.length
      ∧ (∀ t o, (t, o) ∈ asked events → d.store.findAssignment o = none →
          d.calls.get? t = some ⟨o, .returned (.error (.noCourierAvailable o))⟩)
      ∧ (orders.length ≤ capacity → ∀ t o, (t, o) ∈ asked events →
          ∃ a, d.calls.get? t = some ⟨o, .returned (.ok a)⟩) := by
  intro d capacity orders
  have hfresh : ((couriers ++ inserted events).map (·.id)).Nodup := by
    rwa [hnobody, List.append_nil]
  obtain ⟨hsound, -, hbalance⟩ := sound_run events hfresh
  have hrefused : d.RefusedForGood := refusedForGood_run hdistinct events hnobody
  have hasked : ∀ o a, d.store.findAssignment o = some a → o ∈ orders := fun o a ha =>
    mem_ordersAsked.2 (asked_of_findAssignment_run couriers events ha)
  -- Every courier is available or recorded.
  have hclaimed : d.claimedCount = 0 := by
    refine claimedCount_eq_zero fun t c hc => ?_
    obtain ⟨r, hr⟩ := hreturned t c.orderId (mem_asked_of_run couriers events hc)
    exact ⟨r, by rw [Option.some.inj (hc.symm.trans hr)]⟩
  have hall : d.store.availableCount
      + (orders.filter fun o => (d.store.findAssignment o).isSome).length = capacity := by
    have : d.balance = capacity := by rw [hbalance, hnobody, List.append_nil]
    unfold balance at this
    have hnodup : orders.Nodup := List.nodup_dedup _
    rw [length_assigned hnodup hasked]
    omega
  have hmin := length_assigned_eq_min hall fun o ho => by
    obtain ⟨t, ht⟩ := mem_ordersAsked.1 ho
    obtain ⟨r, hr⟩ := hreturned t o ht
    exact (returned_cases hsound hrefused hr).imp (fun ⟨a, _, ha⟩ => ⟨a, ha⟩) And.right
  refine ⟨hmin, hasked, ?_, fun t o ht hnone => ?_, fun hle t o ht => ?_⟩
  · rw [← hmin, ← hall, Nat.add_sub_cancel]
  · obtain ⟨r, hr⟩ := hreturned t o ht
    obtain ⟨a, -, ha⟩ | ⟨rfl, -⟩ := returned_cases hsound hrefused hr
    · rw [hnone] at ha
      cases ha
    · exact hr
  · obtain ⟨r, hr⟩ := hreturned t o ht
    obtain ⟨a, rfl, -⟩ | ⟨-, hturned⟩ := returned_cases hsound hrefused hr
    · exact ⟨a, hr⟩
    · have hlt := length_assigned_lt (mem_ordersAsked.2 ⟨t, ht⟩) hturned
      rw [hmin, Nat.min_eq_right hle] at hlt
      exact absurd hlt (Nat.lt_irrefl _)

deriving instance DecidableEq for AssignStage

deriving instance DecidableEq for AssignCall

/-- Two calls for one order and one each for two more, with two couriers to be
had. The last order is refused while the second courier is claimed and not
recorded yet, and the second call for the first order waits until the first
has returned. -/
def rush : List (Event Nat) :=
  [.call 0 ⟨7⟩, .call 1 ⟨7⟩, .call 2 ⟨8⟩, .call 3 ⟨9⟩, .lock 0, .lock 2, .look 2, .lock 3, .look 0,
    .claim 2, .look 3, .claim 0, .claim 3, .record 0 .epoch, .release 3, .release 0, .lock 1,
    .drop 0, .look 1, .sweep 0, .record 2 .epoch, .release 1, .release 2, .drop 1, .drop 2, .drop 3,
    .sweep 3, .sweep 2, .sweep 1]

/-- Two couriers to be had, and one who is not. -/
def twoFree : List Courier :=
  [⟨⟨1⟩, "first", true⟩, ⟨⟨2⟩, "second", false⟩, ⟨⟨3⟩, "third", true⟩]

theorem capacity_used_rush :
    let d := (opened twoFree).run rush
    (twoFree.map (·.id)).Nodup ∧ inserted rush = []
      ∧ (∀ t o, (t, o) ∈ asked rush → ∃ r, d.calls.get? t = some ⟨o, .returned r⟩)
      ∧ ordersAsked rush = [⟨7⟩, ⟨8⟩, ⟨9⟩]
      ∧ ((ordersAsked rush).filter fun o => (d.store.findAssignment o).isSome).length = 2
      ∧ d.store.availableCount = 0
      ∧ d.store.findAssignment ⟨9⟩ = none
      ∧ d.calls.get? 3 = some ⟨⟨9⟩, .returned (.error (.noCourierAvailable ⟨9⟩))⟩ := by
  intro d
  have hreturned : ∀ t o, (t, o) ∈ asked rush → ∃ r, d.calls.get? t = some ⟨o, .returned r⟩ := by
    intro t o h
    have hasked : asked rush = [(0, ⟨7⟩), (1, ⟨7⟩), (2, ⟨8⟩), (3, ⟨9⟩)] := rfl
    simp only [hasked, List.mem_cons, Prod.mk.injEq, List.not_mem_nil, or_false] at h
    rcases h with ⟨rfl, rfl⟩ | ⟨rfl, rfl⟩ | ⟨rfl, rfl⟩ | ⟨rfl, rfl⟩
    · exact ⟨.ok ⟨⟨7⟩, ⟨3⟩, .epoch⟩, by decide +kernel⟩
    · exact ⟨.ok ⟨⟨7⟩, ⟨3⟩, .epoch⟩, by decide +kernel⟩
    · exact ⟨.ok ⟨⟨8⟩, ⟨1⟩, .epoch⟩, by decide +kernel⟩
    · exact ⟨.error (.noCourierAvailable ⟨9⟩), by decide +kernel⟩
  have hdistinct : (twoFree.map (·.id)).Nodup := by decide
  have horders : ordersAsked rush = [⟨7⟩, ⟨8⟩, ⟨9⟩] := by decide +kernel
  have hnone : d.store.findAssignment ⟨9⟩ = none := by decide +kernel
  obtain ⟨hassigned, -, hleft, hrefused, -⟩ :=
    capacity_used twoFree rush hdistinct rfl hreturned
  refine ⟨hdistinct, rfl, hreturned, horders, ?_, ?_, hnone, ?_⟩
  · rw [hassigned, horders]
    rfl
  · rw [hleft, horders]
    rfl
  · exact hrefused 3 ⟨9⟩ (by decide) hnone

end CourierDispatch.AssignmentDesk
