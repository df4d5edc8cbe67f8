import CourierDispatch.Proofs.Order.Course

/-!
# Settling an order

Once a report is past the store, the order is stored if the report changes it, and
announced if its record is valid. `Settling` lists how far this can have come, with
the calls that were made: whatever the answers are, there are no other cases.
-/

namespace CourierDispatch.OrderService

variable {fact : ValidationFact} {o : Order} {v : OrderValidation}
  {l : List (Answered Call Answer)} {s : Work (Except ServiceError Outcome)}

/-- **The calls by which an order comes to be stored as a report leaves it**: none if
it was read so. -/
inductive Written (fact : ValidationFact) (o : Order) (v : OrderValidation) :
    List (Answered Call Answer) → Prop where
  /-- It was read so. -/
  | unchanged (h : settled o fact v = o) : Written fact o v []
  /-- It has been stored. -/
  | stored (h : settled o fact v ≠ o) :
    Written fact o v [⟨.updateOrder (settled o fact v), .ok ()⟩]

/-- **How far the settling of an order can have come**: the calls that it took, and
what is left of it. -/
inductive Settling (fact : ValidationFact) (o : Order) (v : OrderValidation) :
    List (Answered Call Answer) → Work (Except ServiceError Outcome) → Prop where
  /-- The order is to be stored. -/
  | storing {next : Answer (.updateOrder (settled o fact v)) → Work _}
      (h : settled o fact v ≠ o) :
    Settling fact o v [] (.call (.updateOrder (settled o fact v)) next)
  /-- The order was not stored. -/
  | notStored {e : ServiceError} (h : settled o fact v ≠ o) :
    Settling fact o v [⟨.updateOrder (settled o fact v), .error e⟩] (.done (.error e))
  /-- The order is to be announced. -/
  | announcing {l : List (Answered Call Answer)}
      {next : Answer (.publish (settled o fact v) Topic.orderUpdated) → Work _}
      (hl : Written fact o v l) (hv : v.isValid = true) :
    Settling fact o v l (.call (.publish (settled o fact v) Topic.orderUpdated) next)
  /-- The order was not announced. -/
  | notAnnounced {l : List (Answered Call Answer)} {e : ServiceError} (hl : Written fact o v l)
      (hv : v.isValid = true) :
    Settling fact o v (l ++ [⟨.publish (settled o fact v) Topic.orderUpdated, .error e⟩])
      (.done (.error e))
  /-- The order was announced. -/
  | announced {l : List (Answered Call Answer)} (hl : Written fact o v l) (hv : v.isValid = true) :
    Settling fact o v (l ++ [⟨.publish (settled o fact v) Topic.orderUpdated, .ok ()⟩])
      (.done (.ok ⟨settled o fact v, v, v.isValid && o.status ≠ .accepted⟩))
  /-- There is nothing to announce. -/
  | silent {l : List (Answered Call Answer)} (hl : Written fact o v l) (hv : v.isValid = false) :
    Settling fact o v l (.done (.ok ⟨settled o fact v, v, v.isValid && o.status ≠ .accepted⟩))

/-- An order that is stored as the report leaves it is announced, or not. -/
theorem Written.settling {l' : List (Answered Call Answer)} (hl : Written fact o v l)
    (h : (announce ⟨settled o fact v, v, v.isValid && o.status ≠ .accepted⟩).Trail l' s) :
    Settling fact o v (l ++ l') s := by
  unfold announce at h
  split at h
  · next hv =>
    cases h with
    | refl =>
      rw [List.append_nil]
      exact .announcing hl hv
    | @call _ _ a _ _ h =>
      cases a with
      | error e =>
        cases h
        exact .notAnnounced hl hv
      | ok u =>
        cases h
        exact .announced hl hv
  · next hv =>
    cases h
    rw [List.append_nil]
    exact .silent hl (Bool.eq_false_iff.2 hv)

/-- **Settling an order goes its way.** -/
theorem settling_of_trail (h : (settle fact o v).Trail l s) : Settling fact o v l s := by
  unfold settle at h
  dsimp only at h
  split at h
  · next hsame => exact (Written.unchanged hsame).settling h
  · next hnew =>
    cases h with
    | refl => exact .storing hnew
    | @call _ _ a _ _ h =>
      cases a with
      | error e =>
        cases h
        exact .notStored hnew
      | ok u => exact (Written.stored hnew).settling h

end CourierDispatch.OrderService
