import CourierDispatch.Order.Handler
import CourierDispatch.Proofs.Order.Store

/-!
# One report

What taking in one report does to the order and to its record, whatever becomes
of the calls on the way. The order service makes each call of this work once, so
that what the world adds is a moment for each call (`World`).

A call that fails ends the work, and the store is left as it was at that point.
Hence the order is left as it was or as after the report, and so is the record
(`TakenIn`). Both are as after the report if every call to the store works, and
also if the work ends well, in which case an order that was approved has been
announced.
-/

namespace CourierDispatch

/-! ## What a report says of an order -/

/-- The order after a report: approved for the courier that is named. -/
def Order.after (fact : ValidationFact) (o : Order) : Order :=
  { o with
    courierId := fact.courier? <|> o.courierId
    status := if fact.isSuccessful then .accepted else o.status }

namespace OrderService

/-- A valid record is one that the report approved, and the order follows the
report. -/
theorem settled_eq_after {fact : ValidationFact} {v : OrderValidation}
    (h : v.isValid = fact.isSuccessful) (o : Order) : settled o fact v = o.after fact := by
  unfold settled Order.after
  rw [h]

/-! ## What the world adds -/

/-- What the world adds to the calls of one piece of work. -/
abbrev World := Call → Moment

namespace World

/-- The calls are answered as the world has it. -/
def answer (w : World) (c : Call) (s : State) : Answer c × State := OrderService.answer (w c) c s

/-- **The store works**: only announcements may fail. -/
def Stores (w : World) : Prop := ∀ c, (∀ o event, c ≠ .publish o event) → (w c).fate = .works

/-- A call can fail with an error. -/
def Gives (w : World) (e : ServiceError) : Prop :=
  ∃ c, (w c).fate = .refused e ∨ (w c).fate = .lost e

/-- The store does not work if one of its calls fails. -/
theorem not_stores {w : World} {c : Call} {e : ServiceError}
    (hc : ∀ o event, c ≠ .publish o event) (h : (w c).fate = .refused e ∨ (w c).fate = .lost e) :
    ¬ w.Stores := by
  intro hw
  rw [hw c hc] at h
  rcases h with h | h
  · cases h
  · cases h

end World

variable {w : World} {s : State}

/-- Whatever a script does, everything stands under its own identifier. -/
theorem keyed_run {α : Type} (h : s.store.Keyed) (script : Work α) :
    (script.run w.answer s).2.store.Keyed := by
  induction script generalizing s with
  | done a => exact h
  | call c next ih => exact ih _ (h.answer (w c) c)

/-! ## The announcement -/

/-- **What an announcement leaves** of the state `s`. -/
structure Announces (w : World) (out : Outcome) (s : State)
    (p : Except ServiceError Outcome × State) : Prop where
  /-- The store as it was. -/
  store : p.2.store = s.store
  /-- Its result, if it ends well. -/
  result : ∀ out', p.1 = .ok out' → out' = out
  /-- Its error, if it ends badly. -/
  failure : ∀ e, p.1 = .error e → w.Gives e
  /-- The announcement, if there was one to make. -/
  announced : ∃ new, p.2.announced = s.announced ++ new ∧
    ∀ out', p.1 = .ok out' → out.validation.isValid = true → ⟨out.order, Topic.orderUpdated⟩ ∈ new

theorem announces_run (out : Outcome) : Announces w out s ((announce out).run w.answer s) := by
  unfold announce
  split
  · rw [Script.run_call]
    unfold World.answer answer
    cases hfate : (w (.publish out.order Topic.orderUpdated)).fate with
    | works =>
      refine ⟨rfl, fun _ h => ?_, fun _ h => (by cases h), [_], rfl, ?_⟩
      · exact (Except.ok.inj h).symm
      · exact fun _ _ _ => List.mem_singleton_self _
    | refused e =>
      refine ⟨rfl, fun _ h => (by cases h), fun _ h => ?_, [], (List.append_nil _).symm,
        fun _ h => (by cases h)⟩
      exact Except.error.inj h ▸ ⟨_, .inl hfate⟩
    | lost e =>
      refine ⟨rfl, fun _ h => (by cases h), fun _ h => ?_, [_], rfl, fun _ h => (by cases h)⟩
      exact Except.error.inj h ▸ ⟨_, .inr hfate⟩
  · next hvalid =>
    refine ⟨rfl, fun _ h => ?_, fun _ h => (by cases h), [], (List.append_nil _).symm,
      fun _ _ h => absurd h hvalid⟩
    exact (Except.ok.inj h).symm

/-- An order is announced once if its record is valid, and never otherwise. -/
theorem calls_announce (out : Outcome) : (announce out).calls w.answer s
    = if out.validation.isValid then [.publish out.order Topic.orderUpdated] else [] := by
  unfold announce
  split
  · rw [Script.calls_call]
    split <;> rfl
  · rfl

/-! ## The order -/

/-- **What settling an order leaves** of the state `s`. -/
structure Settles (w : World) (o after : Order) (v : OrderValidation) (s : State)
    (p : Except ServiceError Outcome × State) : Prop where
  /-- The records as they were. -/
  validations : p.2.store.validations = s.store.validations
  /-- The last token as it was. -/
  lastToken : p.2.store.lastToken = s.store.lastToken
  /-- The order as it was, or settled. -/
  order : p.2.store.orders.get? o.id = some o ∨ p.2.store.orders.get? o.id = some after
  /-- The order settled, unless the store failed. -/
  settled : (w.Stores ∨ ∃ out, p.1 = .ok out) → p.2.store.orders.get? o.id = some after
  /-- Its result, if it ends well. -/
  result : ∀ out, p.1 = .ok out → out = ⟨after, v, v.isValid && o.status ≠ .accepted⟩
  /-- Its error, if it ends badly. -/
  failure : ∀ e, p.1 = .error e → w.Gives e
  /-- The announcement, if there was one to make. -/
  announced : ∃ new, p.2.announced = s.announced ++ new ∧
    ∀ out, p.1 = .ok out → v.isValid = true → ⟨after, Topic.orderUpdated⟩ ∈ new

/-- The announcement comes when the order has been settled. -/
theorem Announces.settles {o after : Order} {v : OrderValidation} {s s' : State}
    {p : Except ServiceError Outcome × State}
    (h : Announces w ⟨after, v, v.isValid && o.status ≠ .accepted⟩ s' p)
    (hvalidations : s'.store.validations = s.store.validations)
    (hlast : s'.store.lastToken = s.store.lastToken) (hann : s'.announced = s.announced)
    (hafter : s'.store.orders.get? o.id = some after) : Settles w o after v s p where
  validations := by rw [h.store, hvalidations]
  lastToken := by rw [h.store, hlast]
  order := .inr (by rw [h.store, hafter])
  settled := fun _ => by rw [h.store, hafter]
  result := h.result
  failure := h.failure
  announced := hann ▸ h.announced

/-- What is written of an order is its courier and its status. -/
theorem updateOrder_settled {st : OrderStore} {o : Order} (ho : st.orders.get? o.id = some o)
    (fact : ValidationFact) (v : OrderValidation) :
    st.updateOrder (settled o fact v)
      = (.ok (), { st with orders := st.orders.put o.id (settled o fact v) }) := by
  unfold OrderStore.updateOrder
  have hget : st.orders.get? (settled o fact v).id = some o := ho
  rw [hget]
  rfl

theorem settles_run (fact : ValidationFact) {o : Order} (v : OrderValidation)
    (ho : s.store.orders.get? o.id = some o) :
    Settles w o (settled o fact v) v s ((settle fact o v).run w.answer s) := by
  unfold settle
  dsimp only
  split
  · next hsame => exact (announces_run _).settles rfl rfl rfl (by rw [ho, hsame])
  · rw [Script.run_call]
    unfold World.answer answer
    cases hfate : (w (.updateOrder (settled o fact v))).fate with
    | works =>
      unfold Fate.apply
      dsimp only
      rw [updateOrder_settled ho]
      exact (announces_run _).settles rfl rfl rfl (Table.get?_put_self _ _ _)
    | refused e =>
      refine ⟨rfl, rfl, .inl ho, ?_, fun _ h => (by cases h), fun _ h => ?_, [],
        (List.append_nil _).symm, fun _ h => (by cases h)⟩
      · rintro (hstores | ⟨out, hout⟩)
        · exact absurd hstores (World.not_stores (fun _ _ => by simp) (.inl hfate))
        · cases hout
      · exact Except.error.inj h ▸ ⟨_, .inl hfate⟩
    | lost e =>
      unfold Fate.apply
      dsimp only
      rw [updateOrder_settled ho]
      refine ⟨rfl, rfl, .inr (Table.get?_put_self _ _ _), fun _ => Table.get?_put_self _ _ _,
        fun _ h => (by cases h), fun _ h => ?_, [], (List.append_nil _).symm,
        fun _ h => (by cases h)⟩
      exact Except.error.inj h ▸ ⟨_, .inr hfate⟩

/-! ## The record -/

/-- **What becomes of a record** that is to say what `next` says: it stays if it
does already, and otherwise `next` is written under the next token. -/
def Recorded (w : World) (existing : Option OrderValidation) (next v : OrderValidation)
    (st st' : OrderStore) : Prop :=
  (existing = some v ∧ v.sameState next = true ∧ st'.lastToken = st.lastToken)
    ∨ ((∀ v', existing = some v' → v'.sameState next = false)
        ∧ ∃ c, v = (st.writeValidation (w c).now next).1
          ∧ st'.lastToken = (st.writeValidation (w c).now next).2.lastToken)

theorem Recorded.sameState {existing : Option OrderValidation} {next v : OrderValidation}
    {st st' : OrderStore} (h : Recorded w existing next v st st') : v.sameState next = true := by
  rcases h with ⟨-, hsame, -⟩ | ⟨-, c, rfl, -⟩
  · exact hsame
  · exact OrderValidation.sameState_iff.2 ⟨rfl, rfl⟩

/-- A record that still says the same has not been written again. -/
theorem Recorded.eq_of_sameState {existing : Option OrderValidation}
    {next v v₀ : OrderValidation} {st st' : OrderStore} (h : Recorded w existing next v st st')
    (hv₀ : existing = some v₀) (hsame : v₀.sameState v = true) : v = v₀ := by
  rcases h with ⟨hv, -, -⟩ | ⟨hnew, c, rfl, -⟩
  · exact Option.some.inj (hv.symm.trans hv₀)
  · have hdiffer : v₀.sameState (st.writeValidation (w c).now next).1 = false := hnew v₀ hv₀
    rw [hdiffer] at hsame
    cases hsame

/-- What becomes of a record is read by the last token. -/
theorem Recorded.of_lastToken {existing : Option OrderValidation} {next v : OrderValidation}
    {st st' st'' : OrderStore} (h : Recorded w existing next v st st')
    (hlast : st''.lastToken = st'.lastToken) : Recorded w existing next v st st'' := by
  unfold Recorded at h ⊢
  rw [hlast]
  exact h

/-- The work has ended because the store failed. -/
def Failed (w : World) (p : Except ServiceError Outcome × State) : Prop :=
  ¬ w.Stores ∧ ∃ e, p.1 = .error e ∧ w.Gives e

/-- **What the work on a record leaves** of the state `s`. The store fails and
leaves the record as it was, or there is a state `m` in which the record is
stored. From there the order is settled, unless the store has failed after it
had stored the record. -/
def Records (w : World) (fact : ValidationFact) (o : Order) (next : OrderValidation) (s : State)
    (p : Except ServiceError Outcome × State) : Prop :=
  (p.2 = s ∧ Failed w p)
    ∨ ∃ v m, m.store.validations.get? next.orderId = some v
      ∧ Recorded w (s.store.validations.get? next.orderId) next v s.store m.store
      ∧ m.store.orders = s.store.orders ∧ m.announced = s.announced
      ∧ ((p.2 = m ∧ Failed w p) ∨ p = (settle fact o v).run w.answer m)

/-- The state after a record was written by a call. -/
def wrote (w : World) (c : Call) (next : OrderValidation) (s : State) : State :=
  { s with store := (s.store.writeValidation (w c).now next).2 }

/-- What a call answers that writes a record. -/
def Writes (w : World) (c : Call) (next : OrderValidation) (s : State)
    (q : Except ServiceError OrderValidation × State) : Prop :=
  q = (.ok (s.store.writeValidation (w c).now next).1, wrote w c next s)
    ∨ ((w c).fate ≠ .works
      ∧ ∃ e, w.Gives e ∧ (q = (.error e, s) ∨ q = (.error e, wrote w c next s)))

/-- A first version is written if there is none. -/
theorem writes_insertValidation {next : OrderValidation}
    (h : s.store.validations.get? next.orderId = none) :
    Writes w (.insertValidation next) next s (w.answer (.insertValidation next) s) := by
  unfold Writes World.answer answer
  cases hfate : (w (.insertValidation next)).fate with
  | works =>
    refine .inl ?_
    unfold Fate.apply OrderStore.insertValidation wrote
    simp only [h]
  | refused e => exact .inr ⟨(by simp), e, ⟨_, .inl hfate⟩, .inl rfl⟩
  | lost e =>
    -- the error comes after the write, which the answer does not tell
    refine .inr ⟨(by simp), e, ⟨_, .inr hfate⟩, .inr ?_⟩
    unfold Fate.apply OrderStore.insertValidation wrote
    simp only [h]

/-- A version is replaced if it is the one that was read. -/
theorem writes_updateValidation {next previous : OrderValidation}
    (h : s.store.validations.get? next.orderId = some previous) :
    Writes w (.updateValidation next previous.updatedAt) next s
      (w.answer (.updateValidation next previous.updatedAt) s) := by
  unfold Writes World.answer answer
  cases hfate : (w (.updateValidation next previous.updatedAt)).fate with
  | works =>
    refine .inl ?_
    unfold Fate.apply OrderStore.updateValidation wrote
    simp [h]
  | refused e => exact .inr ⟨(by simp), e, ⟨_, .inl hfate⟩, .inl rfl⟩
  | lost e =>
    refine .inr ⟨(by simp), e, ⟨_, .inr hfate⟩, .inr ?_⟩
    unfold Fate.apply OrderStore.updateValidation wrote
    simp [h]

/-- After a record was written the order is settled, unless the store has
failed. -/
theorem Writes.records {fact : ValidationFact} {o : Order} {next : OrderValidation} {c : Call}
    {q : Except ServiceError OrderValidation × State} (hq : Writes w c next s q)
    (hnew : ∀ v', s.store.validations.get? next.orderId = some v' → v'.sameState next = false)
    (hc : ∀ o event, c ≠ .publish o event) :
    Records w fact o next s ((settleStored fact o q.1).run w.answer q.2) := by
  have hget : (wrote w c next s).store.validations.get? next.orderId
      = some (s.store.writeValidation (w c).now next).1 := Table.get?_put_self _ _ _
  have hrecorded : Recorded w (s.store.validations.get? next.orderId) next _ s.store
      (wrote w c next s).store := .inr ⟨hnew, c, rfl, rfl⟩
  rcases hq with rfl | ⟨hfate, e, he, rfl | rfl⟩
  · exact .inr ⟨_, wrote w c next s, hget, hrecorded, rfl, rfl, .inr rfl⟩
  -- the record has not been written, so nothing has
  · exact .inl ⟨rfl, fun h => hfate (h c hc), e, rfl, he⟩
  -- the record has been written, and the order has not
  · refine .inr ⟨_, wrote w c next s, hget, hrecorded, rfl, rfl, .inl ⟨rfl, ?_, e, rfl, he⟩⟩
    exact fun h => hfate (h c hc)

theorem records_run (fact : ValidationFact) (o : Order) (next : OrderValidation) :
    Records w fact o next s
      ((record fact o (s.store.validations.get? next.orderId) next).run w.answer s) := by
  unfold record
  cases hexisting : s.store.validations.get? next.orderId with
  | none =>
    refine (writes_insertValidation (w := w) hexisting).records ?_ (fun _ _ => by simp)
    intro v' h
    rw [hexisting] at h
    cases h
  | some previous =>
    dsimp only
    split
    · next hsame =>
      exact .inr ⟨previous, s, hexisting, .inl ⟨hexisting, hsame, rfl⟩, rfl, rfl, .inr rfl⟩
    · next hsame =>
      refine (writes_updateValidation (w := w) hexisting).records ?_ (fun _ _ => by simp)
      intro v' h
      obtain rfl := Option.some.inj (hexisting.symm.trans h)
      simpa using hsame

/-! ## The whole of it -/

/-- The record is as it was, or as after the report. -/
def RecordTaken (w : World) (id : Uuid) (fact : ValidationFact) (s s' : State) : Prop :=
  s'.store.validations.get? id = s.store.validations.get? id
    ∨ ∃ v, s'.store.validations.get? id = some v
      ∧ v.sameState (fact.applyTo (w .clock).now
        ((s.store.validations.get? id).getD (.start id (w .clock).now))) = true

/-- **What taking in a report of the courier service leaves** of the state
`s`. -/
structure TakenIn (w : World) (id : Uuid) (fact : ValidationFact) (o : Order) (s : State)
    (p : Except ServiceError Outcome × State) : Prop where
  /-- The order as it was, or as after the report. -/
  order : p.2.store.orders.get? id = some o ∨ p.2.store.orders.get? id = some (o.after fact)
  /-- The record as it was, or as after the report. -/
  record : RecordTaken w id fact s p.2
  /-- Both as after the report, unless the store failed. -/
  complete : (w.Stores ∨ ∃ out, p.1 = .ok out) →
    p.2.store.orders.get? id = some (o.after fact)
      ∧ ∃ v, p.2.store.validations.get? id = some v
        ∧ Recorded w (s.store.validations.get? id) (fact.applyTo (w .clock).now
            ((s.store.validations.get? id).getD (.start id (w .clock).now))) v s.store p.2.store
  /-- Its result, if it ends well. -/
  result : ∀ out, p.1 = .ok out → out.accepted = (fact.isSuccessful && o.status ≠ .accepted)
  /-- Its error, if it ends badly. -/
  failure : ∀ e, p.1 = .error e → w.Gives e
  /-- The announcement, if there was one to make. -/
  announced : ∃ new, p.2.announced = s.announced ++ new ∧
    ∀ out, p.1 = .ok out → fact.isSuccessful = true → ⟨o.after fact, Topic.orderUpdated⟩ ∈ new

/-- Work that the store ends before the order has been written. -/
theorem Failed.takenIn {id : Uuid} {fact : ValidationFact} {o : Order}
    {p : Except ServiceError Outcome × State} (hp : Failed w p)
    (ho : s.store.orders.get? id = some o) (horders : p.2.store.orders = s.store.orders)
    (hrecord : RecordTaken w id fact s p.2) (hann : p.2.announced = s.announced) :
    TakenIn w id fact o s p := by
  obtain ⟨hw, e, he, hgives⟩ := hp
  refine ⟨.inl (by rw [horders, ho]), hrecord, ?_, ?_, ?_, [], ?_, ?_⟩
  · rintro (hstores | ⟨out, hout⟩)
    · exact absurd hstores hw
    · rw [he] at hout
      cases hout
  · intro out hout
    rw [he] at hout
    cases hout
  · intro e' he'
    exact Except.error.inj (he.symm.trans he') ▸ hgives
  · rw [hann, List.append_nil]
  · intro out hout
    rw [he] at hout
    cases hout

/-- The work on the record, once the order and its record have been read. -/
theorem Records.takenIn {id : Uuid} {fact : ValidationFact} {o : Order} {next : OrderValidation}
    {p : Except ServiceError Outcome × State} (h : Records w fact o next s p)
    (ho : s.store.orders.get? id = some o) (hoid : o.id = id) (hid : next.orderId = id)
    (hnext : next = fact.applyTo (w .clock).now
      ((s.store.validations.get? id).getD (.start id (w .clock).now))) :
    TakenIn w id fact o s p := by
  subst hoid
  -- `m` is the state in which the record is stored and the order is not yet
  rcases h with ⟨hp, hfailed⟩ | ⟨v, m, hget, hrec, horders, hann, hp⟩
  · exact hfailed.takenIn ho (by rw [hp]) (.inl (by rw [hp])) (by rw [hp])
  · rw [hid] at hget hrec
    rw [hnext] at hrec
    have hsame := hrec.sameState
    have hvalid : v.isValid = fact.isSuccessful :=
      (OrderValidation.isValid_of_sameState hsame).trans (ValidationFact.isValid_applyTo _ _ _)
    rcases hp with ⟨rfl, hfailed⟩ | rfl
    · exact hfailed.takenIn ho horders (.inr ⟨v, hget, hsame⟩) hann
    · have hset := settles_run (w := w) (s := m) fact v (by rw [horders, ho])
      rw [settled_eq_after hvalid] at hset
      refine ⟨hset.order, .inr ⟨v, by rw [hset.validations, hget], hsame⟩, fun h => ?_, ?_,
        hset.failure, ?_⟩
      · exact ⟨hset.settled h, v, by rw [hset.validations, hget], hrec.of_lastToken hset.lastToken⟩
      · intro out hout
        rw [hset.result out hout, hvalid]
      · rw [← hann, ← hvalid]
        exact hset.announced

/-- An order is read as it is stored, unless the store fails. -/
theorem answer_findOrder {id : Uuid} {o : Order} (ho : s.store.orders.get? id = some o) :
    w.answer (.findOrder id) s = (.ok o, s)
      ∨ (¬ w.Stores ∧ ∃ e, w.Gives e ∧ w.answer (.findOrder id) s = (.error e, s)) := by
  have hact : (s.store.findOrder id, s) = (.ok o, s) := by
    rw [OrderStore.findOrder, ho]
  refine (Fate.apply_of_read (fun s : State => (s.store.findOrder id, s)) hact
    (w (.findOrder id)).fate).imp_right ?_
  rintro ⟨e, hfate, hanswer⟩
  exact ⟨World.not_stores (fun _ _ => by simp) hfate, e, ⟨_, hfate⟩, hanswer⟩

/-- A record is read as it is stored, unless the store fails. -/
theorem answer_findValidation (id : Uuid) :
    w.answer (.findValidation id) s = (.ok (s.store.validations.get? id), s)
      ∨ (¬ w.Stores ∧ ∃ e, w.Gives e ∧ w.answer (.findValidation id) s = (.error e, s)) := by
  refine (Fate.apply_of_read (fun s : State => (.ok (s.store.validations.get? id), s)) rfl
    (w (.findValidation id)).fate).imp_right ?_
  rintro ⟨e, hfate, hanswer⟩
  exact ⟨World.not_stores (fun _ _ => by simp) hfate, e, ⟨_, hfate⟩, hanswer⟩

/-- A record is that of its order, before and after a report. -/
theorem orderId_next (hkeyed : s.store.Keyed) (id : Uuid) (fact : ValidationFact) (now : Instant) :
    (fact.applyTo now ((s.store.validations.get? id).getD (.start id now))).orderId = id := by
  rw [ValidationFact.orderId_applyTo]
  cases hv : s.store.validations.get? id with
  | none => rfl
  | some v => exact hkeyed.validation hv

theorem apply_courierService (fact : ValidationFact) (id : Uuid) (o : Order)
    (existing : Option OrderValidation) :
    apply Topic.courierService fact id o existing = .call .clock fun now =>
      record fact o existing (fact.applyTo now (existing.getD (.start id now))) := by
  unfold apply
  simp only [if_pos]

theorem apply_of_ne {service : String} (h : service ≠ Topic.courierService) (fact : ValidationFact)
    (id : Uuid) (o : Order) (existing : Option OrderValidation) :
    apply service fact id o existing = .call .clock fun now =>
      .done (.ok ⟨o, existing.getD (.start id now), false⟩) := by
  unfold apply
  simp only [if_neg h]

/-- **What taking in a report of the courier service leaves**, whatever becomes
of its calls. -/
theorem takenIn_run {id : Uuid} {o : Order} (hkeyed : s.store.Keyed)
    (ho : s.store.orders.get? id = some o) (fact : ValidationFact) :
    TakenIn w id fact o s ((validate Topic.courierService id fact).run w.answer s) := by
  unfold validate
  rw [Script.run_call]
  rcases answer_findOrder (w := w) ho with hfind | ⟨hw, e, he, hfind⟩
  · rw [hfind]
    dsimp only
    rw [Script.run_call]
    rcases answer_findValidation (w := w) (s := s) id with hread | ⟨hw, e, he, hread⟩
    · rw [hread]
      dsimp only
      rw [apply_courierService, Script.run_call]
      have hid := orderId_next hkeyed id fact (w .clock).now
      have hrecords := records_run (w := w) (s := s) fact o (fact.applyTo (w .clock).now
        ((s.store.validations.get? id).getD (.start id (w .clock).now)))
      rw [hid] at hrecords
      exact hrecords.takenIn ho (hkeyed.order ho) hid rfl
    · rw [hread]
      exact Failed.takenIn ⟨hw, e, rfl, he⟩ ho rfl (.inl rfl) rfl
  · rw [hfind]
    exact Failed.takenIn ⟨hw, e, rfl, he⟩ ho rfl (.inl rfl) rfl

/-- **A report of an unknown service leaves everything as it is**, and accepts
nothing. -/
theorem run_of_ne {service : String} (h : service ≠ Topic.courierService) {id : Uuid}
    {fact : ValidationFact} {o : Order} (ho : s.store.orders.get? id = some o) :
    ((validate service id fact).run w.answer s).2 = s
      ∧ ∀ out, ((validate service id fact).run w.answer s).1 = .ok out → out.accepted = false := by
  unfold validate
  rw [Script.run_call]
  rcases answer_findOrder (w := w) ho with hfind | ⟨-, e, -, hfind⟩
  · rw [hfind]
    dsimp only
    rw [Script.run_call]
    rcases answer_findValidation (w := w) (s := s) id with hread | ⟨-, e, -, hread⟩
    · rw [hread]
      dsimp only
      rw [apply_of_ne h, Script.run_call]
      exact ⟨rfl, fun out hout => Except.ok.inj hout ▸ rfl⟩
    · rw [hread]
      exact ⟨rfl, fun out hout => by cases hout⟩
  · rw [hfind]
    exact ⟨rfl, fun out hout => by cases hout⟩

/-! ## Announcements that are attempted -/

/-- The call announces that an order was updated. -/
def Call.isUpdate : Call → Bool
  | publish _ event => event = Topic.orderUpdated
  | _ => false

/-- How many times a piece of work attempts to announce an update. -/
def updates {α : Type} (w : World) (script : Work α) (s : State) : Nat :=
  (script.calls w.answer s).countP Call.isUpdate

theorem updates_call_of_not {α : Type} {c : Call} (hc : c.isUpdate = false)
    (next : Answer c → Work α) :
    updates w (.call c next) s = updates w (next (w.answer c s).1) (w.answer c s).2 := by
  unfold updates
  rw [Script.calls_call, List.countP_cons_of_neg (by simp [hc])]

theorem updates_announce (out : Outcome) :
    updates w (announce out) s = if out.validation.isValid then 1 else 0 := by
  unfold updates
  rw [calls_announce]
  split
  · rfl
  · rfl

theorem updates_settle (hw : w.Stores) {fact : ValidationFact} {o : Order} {v : OrderValidation}
    (ho : s.store.orders.get? o.id = some o) :
    updates w (settle fact o v) s = if v.isValid then 1 else 0 := by
  unfold settle
  dsimp only
  split
  · exact updates_announce _
  · rw [updates_call_of_not rfl]
    have hanswer : (w.answer (.updateOrder (settled o fact v)) s).1 = .ok () := by
      unfold World.answer answer
      rw [hw (.updateOrder (settled o fact v)) (fun _ _ => by simp)]
      unfold Fate.apply
      dsimp only
      rw [updateOrder_settled ho]
    rw [hanswer]
    exact updates_announce _

/-- A record that the store has taken leads to one announcement if it is valid. -/
theorem Writes.updates_settleStored {fact : ValidationFact} {o : Order} {next : OrderValidation}
    {c : Call} {q : Except ServiceError OrderValidation × State} (hq : Writes w c next s q)
    (hc : (w c).fate = .works) (ho : s.store.orders.get? o.id = some o) (hw : w.Stores) :
    updates w (settleStored fact o q.1) q.2 = if next.isValid then 1 else 0 := by
  rcases hq with rfl | ⟨hfate, -⟩
  · exact updates_settle hw (s := wrote w c next s) ho
  · exact absurd hc hfate

theorem updates_record (hw : w.Stores) (fact : ValidationFact) {o : Order} (next : OrderValidation)
    (ho : s.store.orders.get? o.id = some o) :
    updates w (record fact o (s.store.validations.get? next.orderId) next) s
      = if next.isValid then 1 else 0 := by
  unfold record
  cases hexisting : s.store.validations.get? next.orderId with
  | none =>
    dsimp only
    rw [updates_call_of_not rfl]
    exact (writes_insertValidation hexisting).updates_settleStored (hw _ fun _ _ => by simp) ho hw
  | some previous =>
    dsimp only
    split
    · next hsame =>
      rw [updates_settle hw ho, OrderValidation.isValid_of_sameState hsame]
    · rw [updates_call_of_not rfl]
      exact (writes_updateValidation hexisting).updates_settleStored (hw _ fun _ _ => by simp) ho hw

/-- **An update is announced once for every approval**, if the store works, and
never for a refusal. -/
theorem updates_validate (hw : w.Stores) {id : Uuid} {fact : ValidationFact} {o : Order}
    (hkeyed : s.store.Keyed) (ho : s.store.orders.get? id = some o) :
    updates w (validate Topic.courierService id fact) s = if fact.isSuccessful then 1 else 0 := by
  unfold validate
  rw [updates_call_of_not rfl]
  rw [(answer_findOrder (w := w) ho).resolve_right fun h => h.1 hw]
  dsimp only
  rw [updates_call_of_not rfl]
  rw [(answer_findValidation (w := w) id).resolve_right fun h => h.1 hw]
  dsimp only
  rw [apply_courierService, updates_call_of_not rfl]
  have hid := orderId_next hkeyed id fact (w .clock).now
  have hupdates := updates_record hw fact (fact.applyTo (w .clock).now
      ((s.store.validations.get? id).getD (.start id (w .clock).now)))
    (show s.store.orders.get? o.id = some o by rw [hkeyed.order ho, ho])
  rw [hid, ValidationFact.isValid_applyTo] at hupdates
  exact hupdates

/-- A report of an unknown service leads to no announcement. -/
theorem updates_of_ne (hw : w.Stores) {service : String} (h : service ≠ Topic.courierService)
    {id : Uuid} {fact : ValidationFact} {o : Order} (ho : s.store.orders.get? id = some o) :
    updates w (validate service id fact) s = 0 := by
  unfold validate
  rw [updates_call_of_not rfl]
  rw [(answer_findOrder (w := w) ho).resolve_right fun h => h.1 hw]
  dsimp only
  rw [updates_call_of_not rfl]
  rw [(answer_findValidation (w := w) id).resolve_right fun h => h.1 hw]
  dsimp only
  rw [apply_of_ne h, updates_call_of_not rfl]
  rfl

end OrderService

end CourierDispatch
