import CourierDispatch.Courier.Basic
import CourierDispatch.Table

/-!
# The store of couriers and assignments

Giving an order to a courier takes several steps: the assignment of the
order is looked up, a courier is claimed, and the assignment is recorded.
Each step is one operation of the store, so that the steps of several orders
can come between one another; `assign` takes them one after another.
-/

namespace CourierDispatch

/-- **Couriers and assignments.** -/
structure CourierStore where
  /-- The couriers, first inserted first. -/
  couriers : List Courier := []
  /-- The assignments, by order. -/
  assignments : Table Uuid Assignment := Table.empty

namespace CourierStore

/-- The store without couriers. -/
def empty : CourierStore := {}

/-! ## Couriers -/

/-- Stores a courier behind the others. -/
def insertCourier (c : Courier) (s : CourierStore) : CourierStore :=
  { s with couriers := s.couriers ++ [c] }

/-- The first courier with an identifier. -/
def findCourier (id : Uuid) (s : CourierStore) : Except ServiceError Courier :=
  match s.couriers.find? fun c => c.id = id with
  | some c => .ok c
  | none => .error (.notFound "courier" id.toText)

/-- The number of couriers that an order can be given to. -/
def availableCount (s : CourierStore) : Nat := s.couriers.countP (·.isAvailable)

/-! ## Assignments -/

/-- The assignment of an order. -/
def findAssignment (orderId : Uuid) (s : CourierStore) : Option Assignment :=
  s.assignments.get? orderId

/-- Takes the first courier that is available, and the couriers with that
one taken. -/
def claimFirst : List Courier → Option (Courier × List Courier)
  | [] => none
  | c :: rest =>
    if c.isAvailable then some (c, { c with isAvailable := false } :: rest)
    else (claimFirst rest).map fun (taken, rest) => (taken, c :: rest)

/-- The courier that is taken was the first available one, and it is the only
one that changes. -/
theorem claimFirst_eq_some {cs cs' : List Courier} {c : Courier}
    (h : claimFirst cs = some (c, cs')) :
    ∃ front back, cs = front ++ c :: back ∧ c.isAvailable = true ∧
      (∀ x ∈ front, x.isAvailable = false) ∧
      cs' = front ++ { c with isAvailable := false } :: back := by
  induction cs generalizing c cs' with
  | nil => cases h
  | cons x rest ih =>
    by_cases hx : x.isAvailable = true
    · simp only [claimFirst, hx, if_true, Option.some.injEq, Prod.mk.injEq] at h
      obtain ⟨rfl, rfl⟩ := h
      exact ⟨[], rest, rfl, hx, by simp, rfl⟩
    · simp only [claimFirst, hx, Bool.false_eq_true, if_false, Option.map_eq_some_iff] at h
      obtain ⟨⟨c', rest'⟩, hrest, heq⟩ := h
      obtain ⟨rfl, rfl⟩ := Prod.mk.inj heq
      obtain ⟨front, back, rfl, hc, hfront, rfl⟩ := ih hrest
      refine ⟨x :: front, back, rfl, hc, ?_, rfl⟩
      intro y hy
      cases hy with
      | head => simpa using hx
      | tail _ hy => exact hfront y hy

/-- Nobody is taken if nobody is available. -/
theorem claimFirst_eq_none {cs : List Courier} (h : claimFirst cs = none) :
    ∀ c ∈ cs, c.isAvailable = false := by
  induction cs with
  | nil => exact fun c hc => absurd hc List.not_mem_nil
  | cons x rest ih =>
    unfold claimFirst at h
    split at h
    · cases h
    · next hx =>
      rw [Option.map_eq_none_iff] at h
      exact List.forall_mem_cons.2 ⟨Bool.eq_false_iff.2 hx, ih h⟩

/-- **Claims a courier**: the first that is available. -/
def claim (s : CourierStore) : Option Uuid × CourierStore :=
  match claimFirst s.couriers with
  | some (taken, couriers) => (some taken.id, { s with couriers })
  | none => (none, s)

/-- Records an assignment. -/
def recordAssignment (a : Assignment) (s : CourierStore) : CourierStore :=
  { s with assignments := s.assignments.put a.orderId a }

/-- **Gives an order to a courier**; one that has been given to a courier
stays with that one. -/
def assign (now : Instant) (orderId : Uuid) (s : CourierStore) :
    Except ServiceError Assignment × CourierStore :=
  match s.findAssignment orderId with
  | some a => (.ok a, s)
  | none =>
    match s.claim with
    | (none, s) => (.error (.noCourierAvailable orderId), s)
    | (some courierId, s) =>
      let a : Assignment := ⟨orderId, courierId, now⟩
      (.ok a, s.recordAssignment a)

end CourierStore

end CourierDispatch
