import CourierDispatch.Proofs.Order.Acceptance
import CourierDispatch.Proofs.Order.Linearization

/-!
# Acceptance lasts

Reports about any orders are taken in side by side, and any of their calls may fail.
The work on a report reads its order at the beginning and writes it back at the end,
whole and without a token, so that it may put a pending order that it has read in
place of an accepted one. It does not: whatever is written back is accepted
(`Report.Way.heeds`).

This is not seen from the order that was read. A report changes an order only if it
approves it, for a refusal names no courier; and the record that an approval leads
to is valid on each of the three ways past the store, be it the one that was read or
the one that the store has answered (`Report.Past.isValid_eq`).

So an order that is accepted stays so, an update is announced only while the order
is stored as accepted, and an order is accepted only if an approval of it has been
taken in (`acceptance_lasts`).
-/

namespace CourierDispatch

/-- **The order of an identifier is stored as accepted.** -/
def OrderStore.Accepted (s : OrderStore) (id : Uuid) : Prop :=
  ∃ o, s.orders.get? id = some o ∧ o.status = .accepted

namespace OrderService

/-! ## What calls do to orders that are accepted -/

/-- **A call that lets acceptance last**: it writes back accepted orders alone, and
announces updates alone, of orders that are stored as accepted. -/
def Call.Heeds (s : OrderStore) : Call → Prop
  | .insertOrder _ => False
  | .updateOrder o => o.status = .accepted
  | .publish o event => event = Topic.orderUpdated ∧ s.Accepted o.id
  | _ => True

variable {w : World} {s : State} {k : Call}

/-- Only writing an order changes orders. -/
theorem orders_answer (hinsert : ∀ o, k ≠ .insertOrder o) (hupdate : ∀ o, k ≠ .updateOrder o) :
    (w.answer k s).2.store.orders = s.store.orders := by
  unfold World.answer
  rcases store_answer (w k) k s with heq | heq
  · rw [heq]
  · rw [heq]
    cases k with
    | insertOrder o => exact absurd rfl (hinsert o)
    | updateOrder o => exact absurd rfl (hupdate o)
    | insertValidation v =>
      show (s.store.insertValidation _ v).2.orders = _
      unfold OrderStore.insertValidation
      split <;> rfl
    | updateValidation v token =>
      show (s.store.updateValidation _ v token).2.orders = _
      unfold OrderStore.updateValidation
      split
      · rfl
      · split <;> rfl
    | _ => rfl

/-- An order that is written back is written to the row that is there, or to none. -/
theorem orders_answer_updateOrder (o : Order) :
    (w.answer (.updateOrder o) s).2.store.orders = s.store.orders
      ∨ ∃ there, s.store.orders.get? o.id = some there
        ∧ (w.answer (.updateOrder o) s).2.store.orders
          = s.store.orders.put o.id { there with courierId := o.courierId, status := o.status } := by
  unfold World.answer
  rcases store_answer (w (.updateOrder o)) (.updateOrder o) s with heq | heq
  · exact .inl (by rw [heq])
  · rw [heq]
    show (s.store.updateOrder o).2.orders = _ ∨ ∃ there, _ ∧ (s.store.updateOrder o).2.orders = _
    unfold OrderStore.updateOrder
    cases hget : s.store.orders.get? o.id with
    | none => exact .inl rfl
    | some there => exact .inr ⟨there, rfl, rfl⟩

/-- **Accepted orders stay so** under a call that lets them. -/
theorem Call.Heeds.accepted (h : k.Heeds s.store) (w : World) {id : Uuid}
    (hid : s.store.Accepted id) : (w.answer k s).2.store.Accepted id := by
  by_cases hupdate : ∃ o, k = .updateOrder o
  · obtain ⟨o, rfl⟩ := hupdate
    rcases orders_answer_updateOrder (w := w) (s := s) o with horders | ⟨there, hthere, horders⟩
    · unfold OrderStore.Accepted
      rw [horders]
      exact hid
    · unfold OrderStore.Accepted
      rw [horders]
      by_cases heq : id = o.id
      · subst heq
        exact ⟨_, Table.get?_put_self _ _ _, h⟩
      · rw [Table.get?_put, if_neg heq]
        exact hid
  · have horders : (w.answer k s).2.store.orders = s.store.orders := by
      refine orders_answer (fun o ho => ?_) fun o ho => hupdate ⟨o, ho⟩
      subst ho
      exact h
    unfold OrderStore.Accepted
    rw [horders]
    exact hid

/-- An order becomes accepted when it is written back. -/
theorem accepted_of_answer (hinsert : ∀ o, k ≠ .insertOrder o) {id : Uuid}
    (hid : (w.answer k s).2.store.Accepted id) :
    s.store.Accepted id ∨ ∃ o, k = .updateOrder o ∧ o.id = id := by
  by_cases hupdate : ∃ o, k = .updateOrder o
  · obtain ⟨o, rfl⟩ := hupdate
    by_cases heq : o.id = id
    · exact .inr ⟨o, rfl, heq⟩
    · refine .inl ?_
      unfold OrderStore.Accepted at hid ⊢
      rcases orders_answer_updateOrder (w := w) (s := s) o with horders | ⟨there, hthere, horders⟩
      · rwa [horders] at hid
      · rwa [horders, Table.get?_put, if_neg (Ne.symm heq)] at hid
  · refine .inl ?_
    unfold OrderStore.Accepted at hid ⊢
    rwa [orders_answer hinsert fun o ho => hupdate ⟨o, ho⟩] at hid

/-! ## What answers show -/

/-- **What an answer shows** of the store, at that moment and from then on: an order
is found under its identifier, a record is stored as it was handed over, and an
order that was accepted when it was found or written stays so. -/
def Call.Shows (s : OrderStore) : (k : Call) → Answer k → Prop
  | .findOrder id, .ok o => o.id = id ∧ (o.status = .accepted → s.Accepted id)
  | .insertValidation v, .ok stored => stored.isValid = v.isValid
  | .updateValidation v _, .ok stored => stored.isValid = v.isValid
  | .updateOrder o, .ok _ => o.status = .accepted → s.Accepted o.id
  | _, _ => True

theorem Call.Shows.mono {s s' : OrderStore} {a : Answer k} (h : k.Shows s a)
    (hs : ∀ id, s.Accepted id → s'.Accepted id) : k.Shows s' a := by
  cases k with
  | findOrder id =>
    cases a with
    | error e => trivial
    | ok o => exact ⟨h.1, fun ho => hs _ (h.2 ho)⟩
  | updateOrder o =>
    cases a with
    | error e => trivial
    | ok u => exact fun ho => hs _ (h ho)
  | insertValidation v => cases a <;> exact h
  | updateValidation v token => cases a <;> exact h
  | _ => trivial

/-- An order that was written back without a failure is there. -/
theorem accepted_of_updateOrder {o : Order} (ho : o.status = .accepted)
    (hok : (w.answer (.updateOrder o) s).1 = .ok ()) :
    (w.answer (.updateOrder o) s).2.store.Accepted o.id := by
  unfold World.answer answer at hok ⊢
  cases hfate : (w (.updateOrder o)).fate with
  | works =>
    rw [hfate] at hok
    unfold Fate.apply OrderStore.updateOrder at hok ⊢
    dsimp only at hok ⊢
    split
    · exact ⟨_, Table.get?_put_self _ _ _, ho⟩
    · next hget =>
      rw [hget] at hok
      cases hok
  | refused e =>
    rw [hfate] at hok
    cases hok
  | lost e =>
    rw [hfate] at hok
    cases hok

/-- An order is found as it is stored. -/
theorem orders_of_findOrder {id : Uuid} {o : Order}
    (hok : (w.answer (.findOrder id) s).1 = .ok o) : s.store.orders.get? id = some o := by
  unfold World.answer answer at hok
  cases hfate : (w (.findOrder id)).fate with
  | works =>
    rw [hfate] at hok
    unfold Fate.apply OrderStore.findOrder at hok
    dsimp only at hok
    split at hok
    · next hget => exact hget.trans (congrArg some (Except.ok.inj hok))
    · cases hok
  | refused e =>
    rw [hfate] at hok
    cases hok
  | lost e =>
    rw [hfate] at hok
    cases hok

/-- **Every answer shows what it is to show.** -/
theorem shows_answer (hkeyed : s.store.Keyed) (w : World) (k : Call) :
    k.Shows (w.answer k s).2.store (w.answer k s).1 := by
  have hanswerable := answerable_answer hkeyed (w k) k
  cases k with
  | findOrder id =>
    cases hfound : (w.answer (.findOrder id) s).1 with
    | error e => trivial
    | ok o =>
      refine ⟨hanswerable o hfound, fun ho => ⟨o, ?_, ho⟩⟩
      rw [orders_answer (fun _ => by simp) (fun _ => by simp)]
      exact orders_of_findOrder hfound
  | updateOrder o =>
    cases hok : (w.answer (.updateOrder o) s).1 with
    | error e => trivial
    | ok u => exact fun ho => accepted_of_updateOrder ho hok
  | insertValidation v =>
    cases hok : (w.answer (.insertValidation v) s).1 with
    | error e => trivial
    | ok stored => exact hanswerable stored hok
  | updateValidation v token =>
    cases hok : (w.answer (.updateValidation v token) s).1 with
    | error e => trivial
    | ok stored => exact hanswerable stored hok
  | _ => trivial

/-! ## The work on a report -/

/-- A valid record accepts the order. -/
theorem status_settled {v : OrderValidation} (hv : v.isValid = true) (o : Order)
    (fact : ValidationFact) : (settled o fact v).status = .accepted := if_pos hv

/-- A refusal leaves the order as it is. -/
theorem after_of_refusal {fact : ValidationFact} (hfact : fact.isSuccessful = false) (o : Order) :
    o.after fact = o := by
  unfold Order.after ValidationFact.courier?
  rw [hfact]
  rfl

section Way

variable {r : Report} {o : Order} {v : OrderValidation} {st : OrderStore}
  {l : List (Answered Call Answer)}

/-- **The record with which a report gets past the store** is valid if the report
approves, whichever way that was. -/
theorem Report.Past.isValid_eq (h : r.Past o l v) (hl : ∀ n ∈ l, n.1.Shows st n.2) :
    v.isValid = r.fact.isSuccessful := by
  cases h with
  | unchanged hsame =>
    exact (OrderValidation.isValid_of_sameState hsame).trans (ValidationFact.isValid_applyTo _ _ _)
  | @inserted now =>
    have hstored : v.isValid = (r.next none now).isValid :=
      hl ⟨.insertValidation (r.next none now), .ok v⟩ (by simp)
    exact hstored.trans (ValidationFact.isValid_applyTo _ _ _)
  | @updated read _ now hnew =>
    have hstored : v.isValid = (r.next (some read) now).isValid :=
      hl ⟨.updateValidation (r.next (some read) now) read.updatedAt, .ok v⟩ (by simp)
    exact hstored.trans (ValidationFact.isValid_applyTo _ _ _)

/-- A report that is past the store has found its order. -/
theorem Report.Past.found (h : r.Past o l v) : ⟨.findOrder r.orderId, .ok o⟩ ∈ l := by
  cases h <;> simp [Report.reading]

/-- **An order with a valid record is accepted once it is stored** as the report leaves
it, whether it was written or found so. -/
theorem Written.accepted (h : Written r.fact o v l) (hv : v.isValid = true)
    (hfound : o.status = .accepted → st.Accepted o.id) (hl : ∀ n ∈ l, n.1.Shows st n.2) :
    st.Accepted o.id := by
  have haccepted := status_settled hv o r.fact
  cases h with
  | unchanged hsame => exact hfound (hsame ▸ haccepted)
  | stored hnew =>
    have hstored : (settled o r.fact v).status = .accepted → st.Accepted o.id :=
      hl ⟨.updateOrder (settled o r.fact v), .ok ()⟩ (List.mem_singleton_self _)
    exact hstored haccepted

/-- **The work on a report lets acceptance last.** -/
theorem Report.Way.heeds {next : Answer k → Work (Except ServiceError Outcome)}
    (h : r.Way l (.call k next)) (hl : ∀ n ∈ l, n.1.Shows st n.2) : k.Heeds st := by
  cases h with
  | asking => trivial
  | found => trivial
  | read => trivial
  | inserting => trivial
  | updating => trivial
  | @settling o l₁ l₂ v _ hcourier hpast htrail =>
    have hl₁ : ∀ n ∈ l₁, n.1.Shows st n.2 := fun n hn => hl n (List.mem_append_left _ hn)
    have hl₂ : ∀ n ∈ l₂, n.1.Shows st n.2 := fun n hn => hl n (List.mem_append_right _ hn)
    obtain ⟨hid, hfound⟩ : o.id = r.orderId ∧ (o.status = .accepted → st.Accepted r.orderId) :=
      hl₁ _ hpast.found
    have hvalid := hpast.isValid_eq hl₁
    cases settling_of_trail htrail with
    | storing hnew =>
      refine status_settled ?_ o r.fact
      by_contra hv
      -- A report that does not approve would have left the order as it was.
      refine hnew ((settled_eq_after hvalid o).trans (after_of_refusal ?_ o))
      rw [← hvalid]
      exact Bool.eq_false_iff.2 hv
    | announcing hwritten hv =>
      refine ⟨rfl, hwritten.accepted hv ?_ hl₂⟩
      rw [hid]
      exact hfound

/-- **Only an approval that has been taken in writes its order back.** -/
theorem Report.Way.approves {after : Order}
    {next : Answer (.updateOrder after) → Work (Except ServiceError Outcome)}
    (h : r.Way l (.call (.updateOrder after) next)) (hl : ∀ n ∈ l, n.1.Shows st n.2) :
    r.takings l = 1 ∧ after.id = r.orderId ∧ r.service = Topic.courierService
      ∧ r.fact.isSuccessful = true := by
  cases h with
  | @settling o l₁ l₂ v _ hcourier hpast htrail =>
    have hl₁ : ∀ n ∈ l₁, n.1.Shows st n.2 := fun n hn => hl n (List.mem_append_left _ hn)
    have htakings : r.takings (l₁ ++ l₂) = 1 := by
      rw [takings_append, hpast.takings_eq hcourier, takings_of_settles r (trail_settle htrail).1]
    have hvalid := hpast.isValid_eq hl₁
    obtain ⟨hid, -⟩ : o.id = r.orderId ∧ _ := hl₁ _ hpast.found
    cases settling_of_trail htrail with
    | storing hnew =>
      refine ⟨htakings, hid, hcourier, ?_⟩
      by_contra hfact
      refine hnew ((settled_eq_after hvalid o).trans (after_of_refusal ?_ o))
      exact Bool.eq_false_iff.2 hfact

end Way

/-! ## Runs -/

variable {τ : Type} [DecidableEq τ]

/-- **What holds of orders and of what was done to them**, if `store` was there at
the beginning. -/
structure Upheld (report : τ → Report) (store : OrderStore) (j : Notes τ) : Prop where
  /-- Everything stands under its own identifier. -/
  keyed : j.state.store.Keyed
  /-- Every answer still shows what it showed. -/
  shown : ∀ t, ∀ n ∈ j.log t, n.1.Shows j.state.store n.2
  /-- Every call has let acceptance last. -/
  heeded : ∀ m ∈ j.made, m.call.Heeds m.before.store
  /-- An order is accepted because an approval was taken in. -/
  approved : ∀ id, j.state.store.Accepted id → store.Accepted id ∨ ∃ t ∈ taken report j,
    (report t).orderId = id ∧ (report t).service = Topic.courierService
      ∧ (report t).fact.isSuccessful = true

/-- **Every call of the work on a report keeps it so.** -/
theorem Upheld.add {report : τ → Report} {store : OrderStore} {j : Notes τ}
    (h : Upheld report store j) {t : τ} {next : Answer k → Work (Except ServiceError Outcome)}
    (hway : (report t).Way (j.log t) (.call k next)) (w : World) :
    Upheld report store (j.add (Course.answered w t k j.state)) := by
  have hheeds : k.Heeds j.state.store := hway.heeds (h.shown t)
  refine ⟨h.keyed.answer (w k) k, fun t' n hn => ?_, fun m hm => ?_, fun id hid => ?_⟩
  · have hold : ∀ n ∈ j.log t', n.1.Shows (w.answer k j.state).2.store n.2 :=
      fun n hn => (h.shown t' n hn).mono fun _ => hheeds.accepted w
    rw [Journal.log_add] at hn
    split at hn
    · rcases List.mem_append.1 hn with hn | hn
      · exact hold n hn
      · exact List.mem_singleton.1 hn ▸ shows_answer h.keyed w k
    · exact hold n hn
  · rcases List.mem_append.1 hm with hm | hm
    · exact h.heeded m hm
    · exact List.mem_singleton.1 hm ▸ hheeds
  · have hinsert : ∀ o, k ≠ .insertOrder o := fun o ho => by
      subst ho
      exact hheeds
    rw [taken_add]
    rcases accepted_of_answer hinsert hid with hid | ⟨o, rfl, hoid⟩
    · refine (h.approved id hid).imp_right ?_
      rintro ⟨t', ht', happroves⟩
      exact ⟨t', List.mem_append_left _ ht', happroves⟩
    · obtain ⟨htakings, hid', hcourier, hfact⟩ := hway.approves (h.shown t)
      refine .inr ⟨t, List.mem_append_left _ ?_, hid'.symm.trans hoid, hcourier, hfact⟩
      rw [Course.mem_taken_iff, htakings]
      exact Nat.one_pos

namespace Course

variable {report : τ → Report} {store : OrderStore}

theorem upheld_run (report : τ → Report) (hkeyed : store.Keyed) (events : List (Event τ)) :
    Upheld report store (run report store events).state := by
  induction events using List.reverseRecOn with
  | nil => exact ⟨hkeyed, fun _ _ h => (by cases h), fun _ h => (by cases h), fun _ h => .inl h⟩
  | append_singleton es e ih =>
    rcases state_run_concat report store es e with hstate | ⟨t, w, k, next, rfl, hwork, hstate⟩
    · rw [hstate]
      exact ih
    · rw [hstate]
      exact ih.add (Report.way_of_trail ((logged_run _ _ _).trail hwork)) w

/-- **Accepted orders stay so**, whatever steps follow. -/
theorem accepted_run_append (hkeyed : store.Keyed) (es later : List (Event τ)) {id : Uuid}
    (h : (run report store es).state.state.store.Accepted id) :
    (run report store (es ++ later)).state.state.store.Accepted id := by
  induction later using List.reverseRecOn with
  | nil => rwa [List.append_nil]
  | append_singleton later e ih =>
    rw [← List.append_assoc]
    rcases state_run_concat report store (es ++ later) e with
      hstate | ⟨t, w, k, next, rfl, hwork, hstate⟩
    · rw [hstate]
      exact ih
    · rw [hstate]
      have hway := Report.way_of_trail ((logged_run _ _ _).trail hwork)
      exact (hway.heeds ((upheld_run report hkeyed (es ++ later)).shown t)).accepted w ih

/-- **Acceptance lasts, is announced only where it stands, and comes of approvals
alone**, whatever the reports, the order of their calls and the failures among
these. -/
theorem acceptance_lasts (report : τ → Report) (hkeyed : store.Keyed) (events later : List (Event τ)) :
    (∀ id, (run report store events).state.state.store.Accepted id →
        (run report store (events ++ later)).state.state.store.Accepted id)
      ∧ (∀ m ∈ (run report store events).made, ∀ o event, m.call = .publish o event →
        event = Topic.orderUpdated ∧ m.before.store.Accepted o.id)
      ∧ ∀ id, (run report store events).state.state.store.Accepted id → store.Accepted id
        ∨ ∃ t ∈ taken report (run report store events).state, (report t).orderId = id
          ∧ (report t).service = Topic.courierService ∧ (report t).fact.isSuccessful = true := by
  have hupheld := upheld_run report hkeyed events
  refine ⟨fun id h => accepted_run_append hkeyed events later h, fun m hm o event hcall => ?_,
    hupheld.approved⟩
  have hheeds := hupheld.heeded m hm
  rw [hcall] at hheeds
  exact hheeds

/-- Two approvals, one of which has read the pending order before the other accepts
it: the order is accepted when its announcement fails, and it still is when the
order that was read has been written back, without the courier. -/
theorem acceptance_lasts_staleRead :
    let calm : World := fun _ => ⟨.epoch, ⟨0⟩, .works⟩
    let silent : World := fun _ => ⟨.epoch, ⟨0⟩, .refused (.transport "unreachable")⟩
    let report : Bool → Report := fun t =>
      ⟨Topic.courierService, ⟨7⟩, ⟨true, if t then some ⟨1⟩ else none, none⟩⟩
    let store := stocked [.create ⟨7⟩ "+4912345" .epoch]
    let events : List (Event Bool) := [.begin true, .begin false, .call false calm]
      ++ List.replicate 5 (.call true calm) ++ [.call true silent]
    let later : List (Event Bool) := List.replicate 4 (.call false calm)
    store.Keyed ∧ (run report store events).state.state.store.Accepted ⟨7⟩
      ∧ (run report store (events ++ later)).state.state.store.Accepted ⟨7⟩
      ∧ ((run report store (events ++ later)).state.state.store.orders.get? ⟨7⟩).map (·.courierId)
        = some none
      ∧ ∃ t ∈ taken report (run report store events).state,
        (report t).orderId = ⟨7⟩ ∧ (report t).fact.isSuccessful = true := by
  intro calm silent report store events later
  have hkeyed : store.Keyed := (stocked_records _).1
  have hstatus : ((run report store events).state.state.store.orders.get? ⟨7⟩).map (·.status)
      = some .accepted := by decide +kernel
  have haccepted : (run report store events).state.state.store.Accepted ⟨7⟩ :=
    Option.map_eq_some_iff.1 hstatus
  have hnew : (store.orders.get? ⟨7⟩).map (·.status) = some .pending := by decide +kernel
  obtain ⟨hlasts, -, happroved⟩ := acceptance_lasts report hkeyed events later
  refine ⟨hkeyed, haccepted, hlasts _ haccepted, by decide +kernel, ?_⟩
  rcases happroved _ haccepted with hbefore | ⟨t, ht, hid, -, hfact⟩
  · have hbefore : (store.orders.get? ⟨7⟩).map (·.status) = some .accepted :=
      Option.map_eq_some_iff.2 hbefore
    rw [hnew] at hbefore
    cases hbefore
  · exact ⟨t, ht, hid, hfact⟩

end Course

end OrderService

end CourierDispatch
