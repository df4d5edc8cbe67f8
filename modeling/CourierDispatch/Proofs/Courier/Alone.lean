import CourierDispatch.Courier.Service
import CourierDispatch.Proofs.Claim.Consuming

/-!
# Announcements taken in alone

Announcements of orders are handled one after another, nobody else is at work on the store,
and no call fails (`handler`). An order that was created is given to a courier and reported,
unless all couriers are taken, which is the only failure and leaves everything as it is
(`handler_of_some`). Every other message leaves everything as it is too
(`handler_of_none`).

The clocks have no say in this but for the times of the assignments (`Alike`).
-/

namespace CourierDispatch.CourierService

/-- **The handler of announcements**, with nobody else at work. -/
def handler : Claim.Handler State (Call → Instant) :=
  fun clocks j s => (handle j).run (fun c => answer ⟨clocks c, default, .works⟩ c) s

variable {clocks : Call → Instant} {s : State} {j : Json} {orderId : Uuid}

/-! ## One announcement -/

/-- **Any other message leaves everything as it is.** -/
theorem handler_of_none (h : orderOfJson? j = none) : handler clocks j s = (.ok (), s) := by
  unfold handler handle
  rw [h]
  rfl

/-- **What giving an order to a courier comes to**, at any time. -/
inductive Assigns (orderId : Uuid) (st : CourierStore) : Prop where
  /-- The order has a courier. -/
  | given (a : Assignment) (hfound : st.assignments.get? orderId = some a)
      (heq : ∀ now, st.assign now orderId = (.ok a, st))
  /-- All couriers are taken. -/
  | refused (hnew : st.assignments.get? orderId = none)
      (hnone : CourierStore.claimFirst st.couriers = none)
      (heq : ∀ now, st.assign now orderId = (.error (.noCourierAvailable orderId), st))
  /-- The order is given to a courier. -/
  | claimed (c : Courier) (couriers : List Courier) (hnew : st.assignments.get? orderId = none)
      (hfree : CourierStore.claimFirst st.couriers = some (c, couriers))
      (heq : ∀ now, st.assign now orderId = (.ok ⟨orderId, c.id, now⟩,
        ⟨couriers, st.assignments.put orderId ⟨orderId, c.id, now⟩⟩))

theorem assigns (orderId : Uuid) (st : CourierStore) : Assigns orderId st := by
  cases hfound : st.assignments.get? orderId with
  | some a =>
    refine .given a hfound fun now => ?_
    unfold CourierStore.assign CourierStore.findAssignment
    rw [hfound]
  | none =>
    cases hfree : CourierStore.claimFirst st.couriers with
    | none =>
      refine .refused hfound hfree fun now => ?_
      unfold CourierStore.assign CourierStore.findAssignment CourierStore.claim
      rw [hfound, hfree]
    | some claimed =>
      refine .claimed claimed.1 claimed.2 hfound hfree fun now => ?_
      unfold CourierStore.assign CourierStore.findAssignment CourierStore.claim
      rw [hfound, hfree]
      rfl

/-- **An announced order is given to a courier and reported**, unless that fails. -/
theorem handler_of_some (h : orderOfJson? j = some orderId) : handler clocks j s
    = match s.store.assign (clocks (.assign orderId)) orderId with
      | (.ok a, store) => (.ok (), { s with store, reports := s.reports ++ [a.report] })
      | (.error e, store) => (.error (handlingFailed orderId e), { s with store }) := by
  cases hassign : s.store.assign (clocks (.assign orderId)) orderId with
  | mk r store =>
    have hanswer : answer ⟨clocks (.assign orderId), default, .works⟩ (.assign orderId) s
        = (r, { s with store }) := by
      unfold answer Fate.apply
      simp only [hassign]
    unfold handler handle
    rw [h]
    dsimp only
    unfold assign
    rw [Script.run_bind, Script.run_call, hanswer]
    cases r <;> rfl

/-- **The only failure is that no courier is free.** -/
theorem handler_eq_error {e : HandlerError} {s' : State} (h : handler clocks j s = (.error e, s')) :
    s' = s ∧ ∃ orderId, orderOfJson? j = some orderId
      ∧ e = handlingFailed orderId (.noCourierAvailable orderId)
      ∧ ∀ now, (s.store.assign now orderId).1 = .error (.noCourierAvailable orderId) := by
  cases hj : orderOfJson? j with
  | none =>
    rw [handler_of_none hj] at h
    cases h
  | some orderId =>
    rw [handler_of_some hj] at h
    cases assigns orderId s.store with
    | given a _ heq =>
      rw [heq] at h
      cases h
    | refused _ _ heq =>
      rw [heq] at h
      obtain ⟨he, rfl⟩ := Prod.mk.inj h
      exact ⟨rfl, orderId, rfl, (Except.error.inj he).symm, fun now => by rw [heq]⟩
    | claimed c couriers _ _ heq =>
      rw [heq] at h
      cases h

/-! ## All messages -/

/-- An assignment, but for its time. -/
def gist (a : Assignment) : Uuid × Uuid := (a.orderId, a.courierId)

theorem report_of_gist {a b : Assignment} (h : gist a = gist b) : a.report = b.report := by
  obtain ⟨horder, hcourier⟩ := Prod.mk.inj h
  unfold Assignment.report
  rw [horder, hcourier]

/-- **Two states that differ in times only.** -/
structure Alike (s s' : State) : Prop where
  /-- The couriers are the same, and as many are free. -/
  couriers : s.store.couriers = s'.store.couriers
  /-- The orders are given to the same couriers. -/
  assignments : ∀ id, (s.store.assignments.get? id).map gist
    = (s'.store.assignments.get? id).map gist
  /-- The reports are the same. -/
  reports : s.reports = s'.reports
  /-- The positions are the same. -/
  positions : s.positions = s'.positions

theorem Alike.refl (s : State) : Alike s s := ⟨rfl, fun _ => rfl, rfl, rfl⟩

/-- **What clocks show makes no difference but to times.** -/
theorem Alike.handler {s' : State} (h : Alike s s') (clocks clocks' : Call → Instant) (j : Json) :
    (handler clocks j s).1 = (CourierService.handler clocks' j s').1
      ∧ Alike (CourierService.handler clocks j s).2 (CourierService.handler clocks' j s').2 := by
  cases hj : orderOfJson? j with
  | none =>
    rw [handler_of_none hj, handler_of_none hj]
    exact ⟨rfl, h⟩
  | some orderId =>
    have hassigned := h.assignments orderId
    rw [handler_of_some hj, handler_of_some hj]
    -- both look the order up first, and then take the same courier
    cases assigns orderId s.store with
    | given a hfound heq =>
      rw [hfound] at hassigned
      obtain ⟨b, hfound', hgist⟩ := Option.map_eq_some_iff.1 hassigned.symm
      cases assigns orderId s'.store with
      | given b' hfound'' heq' =>
        obtain rfl := Option.some.inj (hfound'.symm.trans hfound'')
        rw [heq, heq', h.reports]
        dsimp only
        rw [report_of_gist hgist]
        exact ⟨rfl, h.couriers, h.assignments, rfl, h.positions⟩
      | refused hnew _ _ => cases hnew.symm.trans hfound'
      | claimed _ _ hnew _ _ => cases hnew.symm.trans hfound'
    | refused hnew hnone heq =>
      rw [hnew] at hassigned
      have hnew' := Option.map_eq_none_iff.1 hassigned.symm
      cases assigns orderId s'.store with
      | given b hfound _ => cases hnew'.symm.trans hfound
      | refused _ _ heq' =>
        rw [heq, heq']
        exact ⟨rfl, h⟩
      | claimed c couriers _ hfree _ =>
        rw [← h.couriers, hnone] at hfree
        cases hfree
    | claimed c couriers hnew hfree heq =>
      rw [hnew] at hassigned
      have hnew' := Option.map_eq_none_iff.1 hassigned.symm
      cases assigns orderId s'.store with
      | given b hfound _ => cases hnew'.symm.trans hfound
      | refused _ hnone _ =>
        rw [← h.couriers, hfree] at hnone
        cases hnone
      | claimed c' couriers' _ hfree' heq' =>
        rw [← h.couriers, hfree] at hfree'
        obtain ⟨rfl, rfl⟩ := Prod.mk.inj (Option.some.inj hfree')
        rw [heq, heq', h.reports]
        refine ⟨rfl, rfl, fun id => ?_, rfl, h.positions⟩
        rw [Table.get?_put, Table.get?_put]
        split
        · rfl
        · exact h.assignments id

end CourierDispatch.CourierService
