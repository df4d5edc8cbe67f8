import CourierDispatch.Order.Handler
import CourierDispatch.Proofs.Contract
import CourierDispatch.Proofs.Order.Store

/-!
# Orders accepted for a courier

An order tallies with what couriers were given to which orders if it is pending
and names no courier, or is accepted and names the courier that it was given.
Here the order service is shown to store nothing but orders that tally, as long
as it is told of no approval but for the courier that an order was given.

Work on an order reads it once and writes it back much later. What makes this
safe is that the record with which it is written back is valid, so that nothing
of what was read but the identifier of the order is relied on.
-/

namespace CourierDispatch

/-- **The order tallies** with couriers given to orders. -/
def Order.Tallies (o : Order) (given : Uuid → Uuid → Prop) : Prop :=
  (o.status = .pending ∧ o.courierId = none)
    ∨ (o.status = .accepted ∧ ∃ c, o.courierId = some c ∧ given o.id c)

/-- An order that tallies does so when couriers have been given to more
orders. -/
theorem Order.Tallies.mono {o : Order} {given given' : Uuid → Uuid → Prop} (h : o.Tallies given)
    (hle : given ≤ given') : o.Tallies given' :=
  h.imp_right fun ⟨hstatus, c, hc, hgiven⟩ => ⟨hstatus, c, hc, hle _ _ hgiven⟩

/-- **Every stored order tallies.** -/
def OrderStore.Tallies (s : OrderStore) (given : Uuid → Uuid → Prop) : Prop :=
  ∀ ⦃id o⦄, s.orders.get? id = some o → o.Tallies given

namespace OrderService

/-! ## The contract -/

/-- The orders that may be stored. -/
def mayStore (given : Uuid → Uuid → Prop) : Call → Prop
  | .insertOrder o => o.Tallies given
  | .updateOrder o => o.Tallies given
  | _ => True

/-- What is relied on: an order is found under its own identifier, and a record
is stored as it was handed over. -/
def answerable : (c : Call) → Answer c → Prop
  | .findOrder id, a => ∀ o, a = .ok o → o.id = id
  | .insertValidation v, a => ∀ stored, a = .ok stored → stored.isValid = v.isValid
  | .updateValidation v _, a => ∀ stored, a = .ok stored → stored.isValid = v.isValid
  | _, _ => True

/-- **The contract of the order service** with the couriers given to orders. -/
def tallying : Contract Call Answer (Uuid → Uuid → Prop) where
  may := mayStore
  told := fun _ => answerable
  may_mono := by
    intro given given' c hle h
    cases c with
    | insertOrder o => exact Order.Tallies.mono h hle
    | updateOrder o => exact Order.Tallies.mono h hle
    | _ => trivial

/-! ## What calls do -/

theorem isValid_of_insertValidation {now : Instant} {v stored : OrderValidation} {s : OrderStore}
    (h : (s.insertValidation now v).1 = .ok stored) : stored.isValid = v.isValid := by
  unfold OrderStore.insertValidation at h
  split at h
  · cases h
  · cases h
    rfl

theorem isValid_of_updateValidation {now expected : Instant} {v stored : OrderValidation}
    {s : OrderStore} (h : (s.updateValidation now v expected).1 = .ok stored) :
    stored.isValid = v.isValid := by
  unfold OrderStore.updateValidation at h
  split at h
  · cases h
  · split at h
    · cases h
    · cases h
      rfl

/-- **Answers are as they are relied on**, in a store where everything stands
under its own identifier. -/
theorem answerable_answer {s : State} (h : s.store.Keyed) (m : Moment) (c : Call) :
    answerable c (answer m c s).1 := by
  obtain ⟨now, drawn, fate⟩ := m
  cases c with
  | findOrder id =>
    intro o ho
    cases fate with
    | works =>
      change s.store.findOrder id = .ok o at ho
      unfold OrderStore.findOrder at ho
      split at ho
      · next hget => exact Except.ok.inj ho ▸ h.order hget
      · cases ho
    | _ => cases ho
  | insertValidation v =>
    intro stored hstored
    cases fate with
    | works => exact isValid_of_insertValidation hstored
    | _ => cases hstored
  | updateValidation v expected =>
    intro stored hstored
    cases fate with
    | works => exact isValid_of_updateValidation hstored
    | _ => cases hstored
  | _ => trivial

/-- **A call that may be made leaves every stored order tallying.** -/
theorem tallies_answer {given : Uuid → Uuid → Prop} {s : State} (hkeyed : s.store.Keyed)
    (h : s.store.Tallies given) (m : Moment) {c : Call} (hmay : mayStore given c) :
    (answer m c s).2.store.Tallies given := by
  have hput : ∀ {id o}, o.Tallies given →
      { s.store with orders := s.store.orders.put id o }.Tallies given := by
    intro id o ho id' o' hget
    rw [Table.get?_put] at hget
    split at hget
    · exact Option.some.inj hget ▸ ho
    · exact h hget
  rcases store_answer m c s with heq | heq
  · rw [heq]
    exact h
  · rw [heq]
    cases c with
    | insertOrder o => exact hput hmay
    | updateOrder o =>
      show OrderStore.Tallies (OrderStore.updateOrder o s.store).2 given
      unfold OrderStore.updateOrder
      split
      · next stored hget =>
        refine hput ?_
        -- what is written is read by the identifier, the status and the courier alone
        have hid : stored.id = o.id := hkeyed.order hget
        have hwritten : o.Tallies given := hmay
        unfold Order.Tallies at hwritten ⊢
        rw [hid]
        exact hwritten
      · exact h
    | insertValidation v =>
      show OrderStore.Tallies (OrderStore.insertValidation m.now v s.store).2 given
      unfold OrderStore.insertValidation
      split <;> exact h
    | updateValidation v expected =>
      show OrderStore.Tallies (OrderStore.updateValidation m.now v expected s.store).2 given
      unfold OrderStore.updateValidation
      split
      · exact h
      · split <;> exact h
    | _ => exact h

/-! ## The scripts -/

variable {given : Uuid → Uuid → Prop}

theorem keeps_createOrder (phoneNumber : String) :
    (createOrder phoneNumber).Keeps tallying anyResult given := by
  unfold createOrder
  split
  · exact .done trivial
  · refine .call trivial fun _ _ id _ => .call trivial fun _ _ now _ => .call (.inl ⟨rfl, rfl⟩) ?_
    rintro _ _ (e | _) _
    · exact .done trivial
    · refine .call trivial ?_
      rintro _ _ (e | _) _ <;> exact .done trivial

theorem keeps_announce (out : Outcome) : (announce out).Keeps tallying anyResult given := by
  unfold announce
  split
  · refine .call trivial ?_
    rintro _ _ (e | _) _ <;> exact .done trivial
  · exact .done trivial

/-- An order with a valid record is stored as accepted, for the courier that
was reported. -/
theorem keeps_settle {fact : ValidationFact} {o : Order} {v : OrderValidation} {c : Uuid}
    (hgiven : given o.id c) (hfact : fact.courier? = some c) (hv : v.isValid = true) :
    (settle fact o v).Keeps tallying anyResult given := by
  have hsettled : (settled o fact v).Tallies given := by
    refine .inr ⟨?_, c, ?_, hgiven⟩
    · show (if v.isValid then _ else _) = _
      rw [if_pos hv]
    · show (fact.courier? <|> o.courierId) = some c
      rw [hfact]
      rfl
  unfold settle
  dsimp only
  split
  · exact keeps_announce _
  · refine .call hsettled ?_
    rintro _ _ (e | _) _
    · exact .done trivial
    · exact keeps_announce _

theorem keeps_settleStored {fact : ValidationFact} {o : Order} {c : Uuid}
    {stored : Except ServiceError OrderValidation} (hgiven : given o.id c)
    (hfact : fact.courier? = some c) (hstored : ∀ v, stored = .ok v → v.isValid = true) :
    (settleStored fact o stored).Keeps tallying anyResult given := by
  cases stored with
  | error e => exact .done trivial
  | ok v => exact keeps_settle hgiven hfact (hstored v rfl)

/-- A valid record may be stored: the order is settled by it. -/
theorem keeps_record {fact : ValidationFact} {o : Order} {next : OrderValidation} {c : Uuid}
    (hgiven : given o.id c) (hfact : fact.courier? = some c) (hnext : next.isValid = true)
    (existing : Option OrderValidation) :
    (record fact o existing next).Keeps tallying anyResult given := by
  unfold record
  split
  · refine .call trivial fun given' hle stored hstored => ?_
    exact keeps_settleStored (hle _ _ hgiven) hfact fun v hv => (hstored v hv).trans hnext
  · split
    · next hsame =>
      exact keeps_settle hgiven hfact ((OrderValidation.isValid_of_sameState hsame).trans hnext)
    · refine .call trivial fun given' hle stored hstored => ?_
      exact keeps_settleStored (hle _ _ hgiven) hfact fun v hv => (hstored v hv).trans hnext

/-- **Taking in the approval of the courier that an order was given** stores
only what tallies. -/
theorem keeps_validate {id c : Uuid} (hgiven : given id c) (service : String) :
    (validate service id ⟨true, some c, none⟩).Keeps tallying anyResult given := by
  refine .call trivial fun given₁ h₁ found hfound => ?_
  cases found with
  | error e => exact .done trivial
  | ok o =>
    refine .call trivial fun given₂ h₂ existing _ => ?_
    cases existing with
    | error e => exact .done trivial
    | ok existing =>
      refine .call trivial fun given₃ h₃ now _ => ?_
      have hid : o.id = id := hfound o rfl
      -- whatever else was given out since the order was read, its courier stays given
      have hgiven' : given₃ o.id c := hid ▸ h₃ _ _ (h₂ _ _ (h₁ _ _ hgiven))
      dsimp only
      split
      · exact keeps_record hgiven' rfl (ValidationFact.isValid_applyTo _ _ _) existing
      · exact .done trivial

end OrderService

end CourierDispatch
