import CourierDispatch.Proofs.Order.Settling

/-!
# Where a report is taken in

A report is taken in by one call of the work on it: the one that stores the record,
or the one that reads the record if the report leaves that as it is
(`Call.takesIn`). Which of the calls it was can be told from the calls themselves.

Before that call the work has changed nothing; after it nothing but the order is
left to settle (`Report.Way.before_or_past`). So a report is taken in once at most,
and whether it has been is known from where the work on it is.
-/

namespace CourierDispatch

/-- What a record says, whatever its token. -/
def OrderValidation.content (v : OrderValidation) : Option Instant × Option String :=
  (v.courierValidatedAt, v.courierError)

theorem OrderValidation.content_eq_iff {v w : OrderValidation} :
    v.content = w.content ↔ v.sameState w = true := by
  rw [sameState_iff]
  exact Prod.mk.injEq _ _ _ _ ▸ Iff.rfl

/-- Whether a report leaves a record as it is does not depend on the time. -/
theorem ValidationFact.sameState_applyTo (f : ValidationFact) (v : OrderValidation)
    (stamp stamp' : Instant) :
    v.sameState (f.applyTo stamp v) = v.sameState (f.applyTo stamp' v) := by
  unfold applyTo OrderValidation.sameState
  cases f.isSuccessful with
  | false => rfl
  | true => cases v.courierValidatedAt <;> simp

namespace OrderService

/-! ## What is told of a course -/

/-- The version of a record that a call has stored. -/
def Call.stored? : (k : Call) → Answer k → Option OrderValidation
  | .insertValidation _, .ok v => some v
  | .updateValidation _ _, .ok v => some v
  | _, _ => none

/-- What a call has read of a record. -/
def Call.read? : (k : Call) → Answer k → Option (Option OrderValidation)
  | .findValidation _, .ok x => some x
  | _, _ => none

/-- The reading of the clock. -/
def Call.reading? : (k : Call) → Answer k → Option Instant
  | .clock, now => some now
  | _, _ => none

/-- **Whether a call takes a report in**: it stores the record; or it reads the
record, and the report leaves that as it is. -/
def Call.takesIn (r : Report) : (k : Call) → Answer k → Bool
  | .insertValidation _, .ok _ => true
  | .updateValidation _ _, .ok _ => true
  | .findValidation _, .ok (some v) =>
    r.service = Topic.courierService && v.sameState (r.next (some v) v.updatedAt)
  | _, _ => false

/-- Whether a call settles the order, once the record has been stored. -/
def Call.settles : Call → Bool
  | .updateOrder _ => true
  | .publish _ _ => true
  | _ => false

/-! ## What a report does on its way -/

section Way

variable {r : Report} {l : List (Answered Call Answer)} {s : Work (Except ServiceError Outcome)}

/-- How many of some calls take a report in. -/
def Report.takings (r : Report) (l : List (Answered Call Answer)) : Nat :=
  l.countP fun n => n.1.takesIn r n.2

theorem takesIn_of_settles {k : Call} (h : k.settles = true) (r : Report) (a : Answer k) :
    k.takesIn r a = false := by
  cases k with
  | updateOrder o => rfl
  | publish o event => rfl
  | _ => cases h

/-- The calls by which an order comes to be stored settle it. -/
theorem Written.settles {fact : ValidationFact} {o : Order} {v : OrderValidation}
    (h : Written fact o v l) : ∀ n ∈ l, n.1.settles = true := by
  cases h with
  | unchanged => simp
  | stored => simp [Call.settles]

/-- The last steps are to store the order and to announce it, and only they can
fail. -/
theorem trail_settle {fact : ValidationFact} {o : Order} {v : OrderValidation}
    (h : (settle fact o v).Trail l s) :
    (∀ n ∈ l, n.1.settles = true) ∧ (∀ k next, s = .call k next → k.settles = true)
      ∧ ∀ e, s = .done (.error e) →
        (∃ o, ⟨.updateOrder o, .error e⟩ ∈ l) ∨ ∃ o event, ⟨.publish o event, .error e⟩ ∈ l := by
  have happend : ∀ {l : List (Answered Call Answer)} {n : Answered Call Answer},
      Written fact o v l → n.1.settles = true → ∀ n' ∈ l ++ [n], n'.1.settles = true := by
    intro l n hl hn n' hn'
    rcases List.mem_append.1 hn' with hn' | hn'
    · exact hl.settles n' hn'
    · exact List.mem_singleton.1 hn' ▸ hn
  cases settling_of_trail h with
  | storing => exact ⟨by simp, fun _ _ h => by cases h; rfl, fun _ h => by cases h⟩
  | notStored =>
    refine ⟨by simp [Call.settles], fun _ _ h => (by cases h), fun _ h => .inl ?_⟩
    cases h
    exact ⟨_, List.mem_singleton_self _⟩
  | announcing hl => exact ⟨hl.settles, fun _ _ h => by cases h; rfl, fun _ h => by cases h⟩
  | notAnnounced hl =>
    refine ⟨happend hl rfl, fun _ _ h => (by cases h), fun _ h => .inr ?_⟩
    cases h
    exact ⟨_, _, List.mem_append_right _ (List.mem_singleton_self _)⟩
  | announced hl => exact ⟨happend hl rfl, fun _ _ h => (by cases h), fun _ h => by cases h⟩
  | silent hl => exact ⟨hl.settles, fun _ _ h => (by cases h), fun _ h => by cases h⟩

@[simp]
theorem takings_nil (r : Report) : r.takings [] = 0 := rfl

@[simp]
theorem takings_cons (r : Report) (n : Answered Call Answer) (l : List (Answered Call Answer)) :
    r.takings (n :: l) = r.takings l + if n.1.takesIn r n.2 then 1 else 0 :=
  List.countP_cons

theorem takings_append (r : Report) (l l' : List (Answered Call Answer)) :
    r.takings (l ++ l') = r.takings l + r.takings l' :=
  List.countP_append

/-- Settling an order takes no report in. -/
theorem takings_of_settles (r : Report) (h : ∀ n ∈ l, n.1.settles = true) : r.takings l = 0 := by
  unfold Report.takings
  rw [List.countP_eq_zero]
  intro n hn
  rw [takesIn_of_settles (h n hn)]
  simp

theorem takings_reading (r : Report) (o : Order) (x : Option OrderValidation) :
    r.takings (r.reading o x)
      = if (Call.findValidation r.orderId).takesIn r (.ok x) then 1 else 0 := by
  unfold Report.reading
  rw [takings_cons, takings_cons, takings_nil, Nat.zero_add]
  rfl

/-- Reading a record takes a report in if that leaves the record as it is. -/
theorem takings_reading_some (r : Report) (o : Order) (v : OrderValidation) (now : Instant) :
    r.takings (r.reading o (some v))
      = if r.service = Topic.courierService ∧ v.sameState (r.next (some v) now) = true
        then 1 else 0 := by
  have hsame : v.sameState (r.next (some v) v.updatedAt) = v.sameState (r.next (some v) now) :=
    ValidationFact.sameState_applyTo _ _ _ _
  simp [Report.reading, Call.takesIn, hsame]

theorem takings_reading_none (r : Report) (o : Order) : r.takings (r.reading o none) = 0 := by
  simp [Report.reading, Call.takesIn]

/-- **A report that is past the store has been taken in once.** -/
theorem Report.Past.takings_eq {o : Order} {v : OrderValidation} (h : r.Past o l v)
    (hcourier : r.service = Topic.courierService) : r.takings l = 1 := by
  cases h with
  | @unchanged v now h =>
    rw [takings_append, takings_reading_some r o v now, if_pos ⟨hcourier, h⟩]
    rfl
  | inserted =>
    rw [takings_append, takings_reading_none]
    rfl
  | @updated v stored now h =>
    rw [takings_append, takings_reading_some r o v now, if_neg (by simp [h])]
    rfl

/-- Whether a call leaves the store and the bus as they are: it reads, or the store
has refused it. -/
def Call.keeps : (k : Call) → Answer k → Bool
  | .findOrder _, _ => true
  | .findValidation _, _ => true
  | .clock, _ => true
  | .insertValidation _, .error _ => true
  | .updateValidation _ _, .error _ => true
  | _, _ => false

theorem settles_eq_false_of_keeps {k : Call} {a : Answer k} (h : k.keeps a = true) :
    k.settles = false := by
  cases k with
  | updateOrder o => cases h
  | publish o event => cases h
  | _ => rfl

theorem keeps_reading (r : Report) (o : Order) (x : Option OrderValidation) :
    ∀ n ∈ r.reading o x, n.1.keeps n.2 = true := by
  simp [Report.reading, Call.keeps]

/-- **Work that is not past the store**: it has changed nothing, and its report has
not been taken in. -/
structure Report.Before (r : Report) (l : List (Answered Call Answer))
    (s : Work (Except ServiceError Outcome)) : Prop where
  /-- The report has not been taken in. -/
  takings : r.takings l = 0
  /-- Nothing has been changed. -/
  keeps : ∀ n ∈ l, n.1.keeps n.2 = true
  /-- The order is not settled next. -/
  due : ∀ k next, s = .call k next → k.settles = false
  /-- It ends well only if there is nothing to take in. -/
  other : ∀ out, s = .done (.ok out) → r.service ≠ Topic.courierService

/-- **Where the work on a report is**: not past the store, or done with reading, or
past the store, where its report has been taken in once. -/
theorem Report.Way.before_or_past (h : r.Way l s) :
    r.Before l s
      ∨ (∃ o x next, l = r.reading o x ∧ s = .call .clock next)
      ∨ (r.takings l = 1 ∧ r.service = Topic.courierService
        ∧ ∃ o v l₁ l₂, l = l₁ ++ l₂ ∧ (settle r.fact o v).Trail l₂ s) := by
  have hclock : ∀ o x now, ∀ n ∈ r.reading o x ++ [⟨.clock, now⟩], n.1.keeps n.2 = true := by
    intro o x now n hn
    rcases List.mem_append.1 hn with hn | hn
    · exact keeps_reading r o x n hn
    · obtain rfl := List.mem_singleton.1 hn
      rfl
  have hrefused : ∀ o x now k (a : Answer k), k.keeps a = true →
      ∀ n ∈ r.reading o x ++ [⟨.clock, now⟩, ⟨k, a⟩], n.1.keeps n.2 = true := by
    intro o x now k a hk n hn
    rw [← List.singleton_append, ← List.append_assoc] at hn
    rcases List.mem_append.1 hn with hn | hn
    · exact hclock o x now n hn
    · obtain rfl := List.mem_singleton.1 hn
      exact hk
  cases h with
  | asking =>
    refine .inl ⟨rfl, by simp, fun k next h => ?_, fun _ h => by cases h⟩
    unfold Report.work validate at h
    cases h
    rfl
  | unknown => exact .inl ⟨rfl, by simp [Call.keeps], fun _ _ h => (by cases h), fun _ h => by cases h⟩
  | found =>
    exact .inl ⟨rfl, by simp [Call.keeps], fun _ _ h => (by cases h; rfl), fun _ h => by cases h⟩
  | unread => exact .inl ⟨rfl, by simp [Call.keeps], fun _ _ h => (by cases h), fun _ h => by cases h⟩
  | read => exact .inr (.inl ⟨_, _, _, rfl, rfl⟩)
  | @ignored o x now hother =>
    refine .inl ⟨?_, hclock o x now, fun _ _ h => (by cases h), fun _ _ => hother⟩
    rw [takings_append]
    cases x with
    | none => rw [takings_reading_none]; rfl
    | some v => rw [takings_reading_some r o v now, if_neg fun h => hother h.1]; rfl
  | @inserting o now hcourier =>
    refine .inl ⟨?_, hclock o none now, fun _ _ h => (by cases h; rfl), fun _ h => by cases h⟩
    rw [takings_append, takings_reading_none]
    rfl
  | @notInserted o now e =>
    refine .inl ⟨?_, hrefused o none now _ _ rfl, fun _ _ h => (by cases h), fun _ h => by cases h⟩
    rw [takings_append, takings_reading_none]
    rfl
  | @updating o v now hcourier hnew =>
    refine .inl ⟨?_, hclock o (some v) now, fun _ _ h => (by cases h; rfl), fun _ h => by cases h⟩
    rw [takings_append, takings_reading_some r o v now, if_neg (by simp [hnew])]
    rfl
  | @notUpdated o v now e hnew =>
    refine .inl ⟨?_, hrefused o (some v) now _ _ rfl, fun _ _ h => (by cases h),
      fun _ h => by cases h⟩
    rw [takings_append, takings_reading_some r o v now, if_neg (by simp [hnew])]
    rfl
  | @settling o l₁ l₂ v _ hcourier hpast hs =>
    refine .inr (.inr ⟨?_, hcourier, o, v, l₁, l₂, rfl, hs⟩)
    rw [takings_append, hpast.takings_eq hcourier, takings_of_settles r (trail_settle hs).1]

/-- **No report is taken in twice.** -/
theorem Report.Way.takings_le_one (h : r.Way l s) : r.takings l ≤ 1 := by
  rcases h.before_or_past with h | ⟨o, x, next, rfl, -⟩ | ⟨h, -⟩
  · rw [h.takings]
    exact Nat.zero_le 1
  · rw [takings_reading]
    split <;> decide
  · exact Nat.le_of_eq h

/-- Settling an order does not read the clock. -/
theorem reading?_of_settles {k : Call} (h : k.settles = true) (a : Answer k) :
    k.reading? a = none := by
  cases k with
  | updateOrder o => rfl
  | publish o event => rfl
  | _ => cases h

/-- The clock is read once, after the order and the record. -/
theorem Report.Way.clock (h : r.Way l s) : (∀ n ∈ l, n.1.reading? n.2 = none)
    ∨ ∃ o x now l', l = r.reading o x ++ ⟨.clock, now⟩ :: l'
      ∧ ∀ n ∈ l', n.1.reading? n.2 = none := by
  cases h with
  | asking => exact .inl (by simp)
  | unknown => exact .inl (by simp [Call.reading?])
  | found => exact .inl (by simp [Call.reading?])
  | unread => exact .inl (by simp [Call.reading?])
  | read => exact .inl (by simp [Report.reading, Call.reading?])
  | ignored => exact .inr ⟨_, _, _, [], rfl, by simp⟩
  | inserting => exact .inr ⟨_, _, _, [], rfl, by simp⟩
  | notInserted => exact .inr ⟨_, _, _, [_], rfl, by simp [Call.reading?]⟩
  | updating => exact .inr ⟨_, _, _, [], rfl, by simp⟩
  | notUpdated => exact .inr ⟨_, _, _, [_], rfl, by simp [Call.reading?]⟩
  | settling _ hpast hs =>
    have hsettles := fun n hn => reading?_of_settles ((trail_settle hs).1 n hn) n.2
    cases hpast with
    | unchanged => exact .inr ⟨_, _, _, _, rfl, hsettles⟩
    | inserted => exact .inr ⟨_, _, _, _ :: _, rfl, by simpa [Call.reading?] using hsettles⟩
    | updated => exact .inr ⟨_, _, _, _ :: _, rfl, by simpa [Call.reading?] using hsettles⟩

/-- **The first reading of the clock is the only one.** -/
theorem Report.Way.findSome?_reading (h : r.Way l s) {now : Instant}
    (hnow : ⟨.clock, now⟩ ∈ l) : l.findSome? (fun n => n.1.reading? n.2) = some now := by
  rcases h.clock with hnone | ⟨o, x, now', l', rfl, hnone⟩
  · cases hnone _ hnow
  · show some now' = some now
    rcases List.mem_append.1 hnow with hmem | hmem
    · simp [Report.reading] at hmem
    · rcases List.mem_cons.1 hmem with heq | hmem
      · cases heq
        rfl
      · cases hnone _ hmem

/-- **The next call of the work on a report.** -/
theorem Report.Way.due {k : Call} {next : Answer k → Work (Except ServiceError Outcome)}
    (h : r.Way l s) (hs : s = .call k next) :
    k = .findOrder r.orderId ∨ k = .findValidation r.orderId ∨ k = .clock ∨ k.settles = true
      ∨ (∃ o now, l = r.reading o none ++ [⟨.clock, now⟩] ∧ k = .insertValidation (r.next none now))
      ∨ ∃ o v now, l = r.reading o (some v) ++ [⟨.clock, now⟩]
        ∧ k = .updateValidation (r.next (some v) now) v.updatedAt := by
  cases h with
  | asking =>
    unfold Report.work validate at hs
    cases hs
    exact .inl rfl
  | found =>
    cases hs
    exact .inr (.inl rfl)
  | read =>
    cases hs
    exact .inr (.inr (.inl rfl))
  | inserting =>
    cases hs
    exact .inr (.inr (.inr (.inr (.inl ⟨_, _, rfl, rfl⟩))))
  | updating =>
    cases hs
    exact .inr (.inr (.inr (.inr (.inr ⟨_, _, _, rfl, rfl⟩))))
  | settling hcourier hpast htrail =>
    exact .inr (.inr (.inr (.inl ((trail_settle htrail).2.1 _ _ hs))))
  | _ => cases hs

end Way

end OrderService
end CourierDispatch
