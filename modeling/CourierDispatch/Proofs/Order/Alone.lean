import CourierDispatch.Proofs.Claim.Consuming
import CourierDispatch.Proofs.Order.InTurn

/-!
# Reports taken in alone

Reports are handled one after another, nobody else is at work on the store, and no call
fails (`handler`). Then no report meets a conflict: the version of the record that is to be
replaced is the one that was just read. A report of the courier service about a stored
order is taken in (`TakenAlone`), and every other message leaves everything as it is
(`handler_of_none`, `handler_of_some`).

The clocks have no say in this but for the times that are written (`Alike`).
-/

namespace CourierDispatch.OrderService

/-- A world in which nothing fails and the clocks show some times. -/
def World.at (clocks : Call → Instant) : World := fun c => ⟨clocks c, default, .works⟩

theorem World.works_at (clocks : Call → Instant) : (World.at clocks).Works := fun _ => rfl

/-- **The handler of reports**, with nobody else at work. -/
def handler : Claim.Handler State (Call → Instant) :=
  fun clocks j s => (handle j).run (World.at clocks).answer s

/-! ## One report -/

section
variable {w : World} {s : State} {o : Order} {fact : ValidationFact} {v : OrderValidation}

theorem run_announce (hw : w.Works) (out : Outcome) : (announce out).run w.answer s
    = (.ok out, { s with
        announced := s.announced
          ++ if out.validation.isValid then [⟨out.order, Topic.orderUpdated⟩] else [] }) := by
  unfold announce
  split
  · rw [Script.run_call]
    unfold World.answer answer
    rw [hw]
    rfl
  · rw [List.append_nil]
    rfl

/-- The state after an order was settled. -/
def afterSettling (fact : ValidationFact) (o : Order) (v : OrderValidation) (s : State) : State where
  store := { s.store with
    orders :=
      if settled o fact v = o then s.store.orders else s.store.orders.put o.id (settled o fact v) }
  announced := s.announced ++ if v.isValid then [⟨settled o fact v, Topic.orderUpdated⟩] else []

variable (fact v) in
theorem run_settle (hw : w.Works) (ho : s.store.orders.get? o.id = some o) :
    ∃ out, (settle fact o v).run w.answer s = (.ok out, afterSettling fact o v s) := by
  unfold settle afterSettling
  dsimp only
  split
  · next hsame =>
    rw [run_announce hw]
    exact ⟨_, rfl⟩
  · next hdiffers =>
    rw [Script.run_call]
    have hanswer : w.answer (.updateOrder (settled o fact v)) s
        = (.ok (), { s with store := { s.store with
            orders := s.store.orders.put o.id (settled o fact v) } }) := by
      unfold World.answer answer
      rw [hw]
      unfold Fate.apply
      dsimp only
      rw [updateOrder_settled ho]
    rw [hanswer]
    dsimp only
    rw [run_announce hw]
    exact ⟨_, rfl⟩

/-- A record that is written stands in the place of the one before, and nothing else
changes. -/
theorem get?_wrote (c : Call) (next : OrderValidation) (id : Uuid) :
    (wrote w c next s).store.validations.get? id
      = if id = next.orderId then some (s.store.writeValidation (w c).now next).1
        else s.store.validations.get? id :=
  Table.get?_put _ _ _ _

variable (fact) in
/-- **The record is stored without a conflict**, and then the order is settled. -/
theorem run_record (hw : w.Works) (next : OrderValidation) (ho : s.store.orders.get? o.id = some o) :
    ∃ out v m, (record fact o (s.store.validations.get? next.orderId) next).run w.answer s
        = (.ok out, afterSettling fact o v m)
      ∧ v.sameState next = true ∧ m.store.orders = s.store.orders ∧ m.announced = s.announced
      ∧ ∀ id, m.store.validations.get? id
        = if id = next.orderId then some v else s.store.validations.get? id := by
  have hsays : ∀ c, ((s.store.writeValidation (w c).now next).1).sameState next = true :=
    fun _ => OrderValidation.sameState_iff.2 ⟨rfl, rfl⟩
  unfold record
  cases hexisting : s.store.validations.get? next.orderId with
  | none =>
    have hwrites := (writes_insertValidation (w := w) hexisting).resolve_right
      fun h => h.1 (hw _)
    obtain ⟨out, hout⟩ := run_settle fact
      (s.store.writeValidation (w (.insertValidation next)).now next).1
      (s := wrote w (.insertValidation next) next s) hw ho
    dsimp only
    rw [Script.run_call, hwrites]
    exact ⟨out, _, _, hout, hsays _, rfl, rfl, get?_wrote _ next⟩
  | some previous =>
    dsimp only
    split
    · next hsame =>
      obtain ⟨out, hout⟩ := run_settle fact previous hw ho
      refine ⟨out, previous, s, hout, hsame, rfl, rfl, fun id => ?_⟩
      split
      · next hid => rw [hid, hexisting]
      · rfl
    · have hwrites := (writes_updateValidation (w := w) hexisting).resolve_right
        fun h => h.1 (hw _)
      obtain ⟨out, hout⟩ := run_settle fact
        (s.store.writeValidation
          (w (.updateValidation next previous.updatedAt)).now next).1
        (s := wrote w (.updateValidation next previous.updatedAt) next s) hw ho
      rw [Script.run_call, hwrites]
      exact ⟨out, _, _, hout, hsays _, rfl, rfl, get?_wrote _ next⟩

end

/-- **What a report of the courier service leaves** if it is taken in alone, of a state with
its order. -/
structure TakenAlone (r : Report) (o : Order) (s s' : State) : Prop where
  /-- The order follows the report, and the others are as they were. -/
  orders : ∀ id, s'.store.orders.get? id
    = if id = r.orderId then some (o.after r.fact) else s.store.orders.get? id
  /-- The record says what the report says, and the others are as they were. -/
  records : ∃ v now, v.sameState (r.fact.applyTo now
      ((s.store.validations.get? r.orderId).getD (.start r.orderId now))) = true
    ∧ ∀ id, s'.store.validations.get? id
      = if id = r.orderId then some v else s.store.validations.get? id
  /-- An order that was approved is announced. -/
  announced : s'.announced = s.announced
    ++ if r.fact.isSuccessful then [⟨o.after r.fact, Topic.orderUpdated⟩] else []

theorem takenAlone_run {w : World} (hw : w.Works) {r : Report} {o : Order} {s : State}
    (hcourier : r.service = Topic.courierService) (hkeyed : s.store.Keyed)
    (ho : s.store.orders.get? r.orderId = some o) :
    (∃ out, (r.work.run w.answer s).1 = .ok out) ∧ TakenAlone r o s (r.work.run w.answer s).2 := by
  have hoid : o.id = r.orderId := hkeyed.order ho
  unfold Report.work validate
  rw [Script.run_call, (answer_findOrder (w := w) ho).resolve_right fun h => h.1 hw.stores]
  dsimp only
  rw [Script.run_call,
    (answer_findValidation (w := w) r.orderId).resolve_right fun h => h.1 hw.stores]
  dsimp only
  have hclock : w.answer .clock s = ((w .clock).now, s) := rfl
  rw [hcourier, apply_courierService, Script.run_call, hclock]
  have hid := orderId_next hkeyed r.orderId r.fact (w .clock).now
  obtain ⟨out, v, m, hrun, hsame, horders, hannounced, hrecords⟩ :=
    run_record r.fact hw (r.fact.applyTo (w .clock).now
      ((s.store.validations.get? r.orderId).getD (.start r.orderId (w .clock).now)))
      (hoid ▸ ho)
  rw [hid] at hrun hrecords
  have hvalid : v.isValid = r.fact.isSuccessful :=
    (OrderValidation.isValid_of_sameState hsame).trans (ValidationFact.isValid_applyTo _ _ _)
  rw [hrun]
  have horders' : (afterSettling r.fact o v m).store.orders
      = if o.after r.fact = o then s.store.orders
        else s.store.orders.put r.orderId (o.after r.fact) := by
    unfold afterSettling
    rw [settled_eq_after hvalid, horders, hoid]
  refine ⟨⟨out, rfl⟩, fun id => ?_, ⟨v, _, hsame, hrecords⟩, ?_⟩
  · show (afterSettling r.fact o v m).store.orders.get? id = _
    rw [horders']
    split
    · next hsettled =>
      split
      · next heq => rw [heq, ho, hsettled]
      · rfl
    · exact Table.get?_put _ _ _ _
  · show m.announced ++ (if v.isValid then [⟨settled o r.fact v, Topic.orderUpdated⟩] else []) = _
    rw [settled_eq_after hvalid, hannounced, hvalid]

/-! ## Messages -/

/-- **The report in a message**, if it is one of the courier service about a stored order. -/
def Report.about? (st : OrderStore) (j : Json) : Option Report :=
  (ofJson? j).filter fun r => r.service = Topic.courierService && (st.orders.get? r.orderId).isSome

variable {clocks : Call → Instant} {s : State} {j : Json} {r : Report}

/-- A message with a report is handled well if the report is taken in, or if its order is
not found. -/
theorem handler_of_ofJson? (hj : Report.ofJson? j = some r)
    {result : Except ServiceError Outcome} {s' : State}
    (hrun : r.work.run (World.at clocks).answer s = (result, s'))
    (hresult : (∃ out, result = .ok out) ∨ ∃ e, result = .error e ∧ e.isNotFound = true) :
    handler clocks j s = (.ok (), s') := by
  have hrun' : (validate r.service r.orderId r.fact).run (World.at clocks).answer s
      = (result, s') := hrun
  unfold handler handle
  rw [hj]
  dsimp only
  rw [Script.run_bind, hrun']
  rcases hresult with ⟨out, rfl⟩ | ⟨e, rfl, he⟩
  · rfl
  · dsimp only
    rw [if_pos he]
    rfl

/-- **Any other message leaves everything as it is.** -/
theorem handler_of_none (h : Report.about? s.store j = none) :
    handler clocks j s = (.ok (), s) := by
  cases hj : Report.ofJson? j with
  | none =>
    unfold handler handle
    rw [hj]
    rfl
  | some r =>
    cases ho : s.store.orders.get? r.orderId with
    | none =>
      have hfind : (World.at clocks).answer (.findOrder r.orderId) s
          = (.error (.notFound "order" r.orderId.toText), s) := by
        unfold World.answer answer World.at Fate.apply OrderStore.findOrder
        dsimp only
        rw [ho]
      refine handler_of_ofJson? hj ?_ (.inr ⟨.notFound "order" r.orderId.toText, rfl, rfl⟩)
      unfold Report.work validate
      rw [Script.run_call, hfind]
      rfl
    | some o =>
      have hother : r.service ≠ Topic.courierService := by
        intro hcourier
        simp [Report.about?, hj, hcourier, ho] at h
      have hstate : (r.work.run (World.at clocks).answer s).2 = s := (run_of_ne hother ho).1
      exact handler_of_ofJson? hj (Prod.ext rfl hstate)
        (.inl (run_of_ne_of_works (World.works_at clocks) hother ho))

variable (clocks) in
/-- **Such a report is taken in.** -/
theorem handler_of_some (h : Report.about? s.store j = some r) (hkeyed : s.store.Keyed) :
    ∃ o s', s.store.orders.get? r.orderId = some o
      ∧ handler clocks j s = (.ok (), s') ∧ TakenAlone r o s s' := by
  obtain ⟨hj, hr⟩ := Option.filter_eq_some_iff.1 h
  obtain ⟨hcourier, hstored⟩ := Bool.and_eq_true_iff.1 hr
  obtain ⟨o, ho⟩ := Option.isSome_iff_exists.1 hstored
  obtain ⟨hok, htaken⟩ := takenAlone_run (World.works_at clocks) (of_decide_eq_true hcourier)
    hkeyed ho
  exact ⟨o, _, ho, handler_of_ofJson? hj rfl (.inl hok), htaken⟩

/-- **Every message is handled.** -/
theorem handler_ok (hkeyed : s.store.Keyed) : (handler clocks j s).1 = .ok () := by
  cases habout : Report.about? s.store j with
  | none => rw [handler_of_none habout]
  | some r =>
    obtain ⟨_, _, -, hrun, -⟩ := handler_of_some clocks habout hkeyed
    rw [hrun]

/-! ## All messages -/

/-- **What every message keeps**: everything stands under its own identifier, and the same
orders are stored. -/
structure Holds (st : OrderStore) (s : State) : Prop where
  /-- Everything stands under its own identifier. -/
  keyed : s.store.Keyed
  /-- The same orders are stored. -/
  stored : ∀ id, (s.store.orders.get? id).isSome = (st.orders.get? id).isSome

theorem Holds.about? {st : OrderStore} (h : Holds st s) (j : Json) :
    Report.about? s.store j = Report.about? st j := by
  unfold Report.about?
  simp only [h.stored]

theorem Holds.handler {st : OrderStore} (h : Holds st s) (clocks : Call → Instant) (j : Json) :
    Holds st (handler clocks j s).2 := by
  refine ⟨keyed_run h.keyed _, fun id => ?_⟩
  cases habout : Report.about? s.store j with
  | none =>
    rw [handler_of_none habout]
    exact h.stored id
  | some r =>
    obtain ⟨o, s', ho, hrun, htaken⟩ := handler_of_some clocks habout h.keyed
    rw [hrun, htaken.orders, ← h.stored]
    split
    · next hid =>
      rw [hid, ho]
      rfl
    · rfl

/-- What a record says, but for the time. -/
def gist (v : OrderValidation) : Bool × Option String := (v.courierValidatedAt.isSome, v.courierError)

/-- **Two states that differ in times only.** -/
structure Alike (s s' : State) : Prop where
  /-- The orders are the same. -/
  orders : ∀ id, s.store.orders.get? id = s'.store.orders.get? id
  /-- The records say the same. -/
  records : ∀ id, (s.store.validations.get? id).map gist = (s'.store.validations.get? id).map gist
  /-- The announcements are the same. -/
  announced : s.announced = s'.announced

theorem Alike.refl (s : State) : Alike s s := ⟨fun _ => rfl, fun _ => rfl, rfl⟩

theorem isSome_of_gist {x y : Option OrderValidation} (h : x.map gist = y.map gist) :
    (x.bind (·.courierValidatedAt)).isSome = (y.bind (·.courierValidatedAt)).isSome := by
  cases x with
  | none =>
    cases y with
    | none => rfl
    | some w => cases h
  | some v =>
    cases y with
    | none => cases h
    | some w => exact congrArg Prod.fst (Option.some.inj h)

/-- A report leaves records that differ in times only, if those before did. -/
theorem TakenAlone.alike {o : Order} {s₁ s₂ s₁' s₂' : State} (h : Alike s₁ s₂)
    (h₁ : TakenAlone r o s₁ s₁') (h₂ : TakenAlone r o s₂ s₂') : Alike s₁' s₂' := by
  refine ⟨fun id => ?_, fun id => ?_, ?_⟩
  · rw [h₁.orders, h₂.orders, h.orders]
  · obtain ⟨v₁, now₁, hsays₁, hrecords₁⟩ := h₁.records
    obtain ⟨v₂, now₂, hsays₂, hrecords₂⟩ := h₂.records
    have hgist : gist v₁ = gist v₂ := by
      unfold gist
      rw [(says_of_sameState hsays₁).1, (says_of_sameState hsays₁).2, (says_of_sameState hsays₂).1,
        (says_of_sameState hsays₂).2, isSome_of_gist (h.records r.orderId)]
    rw [hrecords₁, hrecords₂]
    split
    · exact congrArg some hgist
    · exact h.records id
  · rw [h₁.announced, h₂.announced, h.announced]

/-- **What clocks show makes no difference but to times.** -/
theorem Alike.handler {s' : State} (h : Alike s s') (hkeyed : s.store.Keyed)
    (hkeyed' : s'.store.Keyed) (clocks clocks' : Call → Instant) (j : Json) :
    (handler clocks j s).1 = (OrderService.handler clocks' j s').1
      ∧ Alike (OrderService.handler clocks j s).2 (OrderService.handler clocks' j s').2 := by
  have habout : Report.about? s.store j = Report.about? s'.store j := by
    unfold Report.about?
    simp only [h.orders]
  cases hj : Report.about? s.store j with
  | none =>
    rw [handler_of_none hj, handler_of_none (habout ▸ hj)]
    exact ⟨rfl, h⟩
  | some r =>
    obtain ⟨o, t, ho, hrun, htaken⟩ := handler_of_some clocks hj hkeyed
    obtain ⟨o', t', ho', hrun', htaken'⟩ :=
      handler_of_some clocks' (habout ▸ hj) hkeyed'
    obtain rfl : o = o' := Option.some.inj (ho.symm.trans ((h.orders r.orderId).trans ho'))
    rw [hrun, hrun']
    exact ⟨rfl, htaken.alike h htaken'⟩

end CourierDispatch.OrderService
