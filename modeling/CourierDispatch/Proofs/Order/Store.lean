import CourierDispatch.Order.Service

/-!
# The order store under calls

A call changes the store as it does when it works, or not at all: that is all
that fates can do to the store (`store_answer`). So a property of stores is
kept by every call if the operations of the store keep it, and the fates of
calls need not be gone through again.

The first such property is that what is stored for an order is stored under its
identifier (`OrderStore.Keyed`).
-/

namespace CourierDispatch

namespace OrderService

/-- What a call that works does to the store. -/
def Call.effect (now : Instant) : Call → OrderStore → OrderStore
  | insertOrder o, s => s.insertOrder o
  | updateOrder o, s => (s.updateOrder o).2
  | insertValidation v, s => (s.insertValidation now v).2
  | updateValidation v expected, s => (s.updateValidation now v expected).2
  | _, s => s

/-- **A call takes effect or changes nothing**, whatever becomes of it. -/
theorem store_answer (m : Moment) (c : Call) (s : State) :
    (answer m c s).2.store = s.store ∨ (answer m c s).2.store = c.effect m.now s.store := by
  obtain ⟨now, drawn, fate⟩ := m
  cases fate with
  | works => cases c <;> exact .inr rfl
  | refused e => cases c <;> exact .inl rfl
  | lost e => cases c <;> exact .inr rfl

end OrderService

/-! ## Tokens -/

namespace OrderService

variable {now : Instant} {B : Int} {st : OrderStore}

/-- The next token has an instant, as long as times and tokens stay away from the
last one. -/
theorem exists_nextToken (hnow : now.micros ≤ B) (hlast : st.lastToken ≤ B)
    (hB : B < Instant.lastMicros) :
    ∃ i, Instant.ofMicros? (st.nextToken now) = some i ∧ i.micros = st.nextToken now
      ∧ st.lastToken < st.nextToken now ∧ st.nextToken now ≤ B + 1 := by
  have hlow : now.micros ≤ st.nextToken now := Int.le_max_left _ _
  have hnext : st.lastToken + 1 ≤ st.nextToken now := Int.le_max_right _ _
  have hhigh : st.nextToken now ≤ B + 1 :=
    Int.max_le.2 ⟨Int.le_trans hnow (by omega), Int.add_le_add_right hlast 1⟩
  obtain ⟨i, hi, hmicros⟩ := Instant.exists_ofMicros? hlow (by omega)
  exact ⟨i, hi, hmicros, by omega, hhigh⟩

/-- A record that is written gets the next token, if that has an instant. -/
theorem micros_writeValidation (next : OrderValidation)
    (hnow : now.micros ≤ B) (hlast : st.lastToken ≤ B) (hB : B < Instant.lastMicros) :
    (st.writeValidation now next).1.updatedAt.micros = st.nextToken now
      ∧ (st.writeValidation now next).2.lastToken = st.nextToken now
      ∧ st.lastToken < st.nextToken now ∧ st.nextToken now ≤ B + 1 := by
  obtain ⟨i, hi, hmicros, hlater, hhigh⟩ := exists_nextToken hnow hlast hB
  refine ⟨?_, rfl, hlater, hhigh⟩
  unfold OrderStore.writeValidation
  dsimp only
  rw [hi]
  exact hmicros

/-- The new token is later than every one that was given out. -/
theorem lt_updatedAt_writeValidation (next : OrderValidation) (hnow : now.micros ≤ B)
    (hlast : st.lastToken ≤ B) (hB : B < Instant.lastMicros) {token : Instant}
    (htoken : token.micros ≤ st.lastToken) : token < (st.writeValidation now next).1.updatedAt := by
  obtain ⟨i, hi, hmicros, hlater, -⟩ := exists_nextToken hnow hlast hB
  unfold OrderStore.writeValidation
  dsimp only
  rw [hi]
  refine Instant.lt_of_micros_lt (Instant.nanos_lt_of_ofMicros? hi) ?_
  show token.micros < i.micros
  rw [hmicros]
  exact Int.lt_of_le_of_lt htoken hlater

/-- A record that is written stands in the place of the one before. -/
theorem findValidation_writeValidation (now : Instant) (next : OrderValidation) (st : OrderStore)
    (id : Uuid) : (st.writeValidation now next).2.findValidation id
      = if next.orderId = id then some (st.writeValidation now next).1
        else st.findValidation id := by
  unfold OrderStore.writeValidation OrderStore.findValidation
  dsimp only
  rw [Table.get?_put]
  simp only [eq_comm]

end OrderService

/-! ## Under their own identifiers -/

/-- **Orders and records stand under their own identifiers.** -/
structure OrderStore.Keyed (s : OrderStore) : Prop where
  /-- Orders do. -/
  order : ∀ ⦃id o⦄, s.orders.get? id = some o → o.id = id
  /-- Records do. -/
  validation : ∀ ⦃id v⦄, s.validations.get? id = some v → v.orderId = id

namespace OrderStore.Keyed

variable {s : OrderStore}

theorem empty : OrderStore.empty.Keyed :=
  ⟨fun _ _ h => (by cases h), fun _ _ h => (by cases h)⟩

/-- An order may be written under its identifier. -/
theorem putOrder (h : s.Keyed) {id : Uuid} {o : Order} (ho : o.id = id) :
    { s with orders := s.orders.put id o }.Keyed := by
  refine ⟨fun id' o' hget => ?_, h.validation⟩
  rw [Table.get?_put] at hget
  split at hget
  · next heq => rw [← Option.some.inj hget, ho, heq]
  · exact h.order hget

theorem insertOrder (h : s.Keyed) (o : Order) : (s.insertOrder o).Keyed := h.putOrder rfl

theorem updateOrder (h : s.Keyed) (o : Order) : (s.updateOrder o).2.Keyed := by
  unfold OrderStore.updateOrder
  split
  · next stored hget =>
    have hid : stored.id = o.id := h.order hget
    exact h.putOrder hid
  · exact h

theorem writeValidation (h : s.Keyed) (now : Instant) (v : OrderValidation) :
    (s.writeValidation now v).2.Keyed := by
  refine ⟨h.order, fun id' v' hget => ?_⟩
  unfold OrderStore.writeValidation at hget
  rw [Table.get?_put] at hget
  split at hget
  · next heq => rw [← Option.some.inj hget, heq]
  · exact h.validation hget

theorem insertValidation (h : s.Keyed) (now : Instant) (v : OrderValidation) :
    (s.insertValidation now v).2.Keyed := by
  unfold OrderStore.insertValidation
  split
  · exact h
  · exact h.writeValidation now v

theorem updateValidation (h : s.Keyed) (now : Instant) (v : OrderValidation)
    (expected : Instant) : (s.updateValidation now v expected).2.Keyed := by
  unfold OrderStore.updateValidation
  split
  · exact h
  · split
    · exact h
    · exact h.writeValidation now v

/-- **Every call leaves everything under its own identifier.** -/
theorem answer {s : OrderService.State} (h : s.store.Keyed) (m : Moment) (c : OrderService.Call) :
    (OrderService.answer m c s).2.store.Keyed := by
  rcases OrderService.store_answer m c s with heq | heq
  · rw [heq]
    exact h
  · rw [heq]
    cases c with
    | insertOrder o => exact h.insertOrder o
    | updateOrder o => exact h.updateOrder o
    | insertValidation v => exact h.insertValidation _ v
    | updateValidation v expected => exact h.updateValidation _ v expected
    | _ => exact h

end OrderStore.Keyed

end CourierDispatch
