import CourierDispatch.Journal
import CourierDispatch.Proofs.Contract
import CourierDispatch.Proofs.Order.OneReport
import Mathlib.Data.List.Induction

/-!
# Reports side by side

Any number of reports about any orders, each taken in by a piece of work of its
own, with the calls of all of them falling between one another in any way
(`Course`). Every call is noted.

One piece of work makes its calls in one order: it reads the order, the record and
the clock, then it stores the record unless the report leaves it as it is, and
only then it settles the order. `Way` lists how far it can have come; the calls
that it has made and its next one belong together, whatever happened in between.
-/

namespace CourierDispatch.OrderService

/-- **Reports taken in side by side**, each by a piece of work named in `τ`. -/
abbrev Course (τ : Type) :=
  Workshop τ Call Answer (Except ServiceError Outcome) (Journal τ Call Answer State)

/-- The work on a report. -/
def Report.work (r : Report) : Work (Except ServiceError Outcome) :=
  validate r.service r.orderId r.fact

/-- **What is taken for granted of the world**: the store works, no clock shows more
than `B` microseconds, and the bus, which has no versions, reports no conflict. -/
structure World.Fair (B : Nat) (w : World) : Prop where
  /-- The store works. -/
  stores : w.Stores
  /-- Clocks are below the bound, and otherwise show what they like. -/
  now_le : ∀ k, (w k).now.micros ≤ B
  /-- An announcement that fails does so for another reason. -/
  no_conflict : ∀ id, ¬ w.Gives (.concurrentValidationConflict id)

namespace Course

variable {τ : Type} [DecidableEq τ]

/-- **The steps of a course.** -/
inductive Event (τ : Type) where
  /-- The work on a report begins. -/
  | begin (task : τ)
  /-- It makes its next call, to which the world adds what it adds. -/
  | call (task : τ) (w : World)

/-- The world of a step is fair. -/
def Event.Fair (B : Nat) : Event τ → Prop
  | .begin _ => True
  | .call _ w => w.Fair B

/-- The course before any work has begun. -/
def start (store : OrderStore) : Course τ := { state := { state := { store } } }

/-- **One step**, where `report` says which report each piece of work takes in;
none if the step cannot be taken. -/
def step? (report : τ → Report) (e : Event τ) (c : Course τ) : Option (Course τ) :=
  match e with
  | .begin t => c.begin? t (report t).work
  | .call t w => c.advance? (fun k j => some (j.note w.answer t k)) t

/-- **Takes steps one after another**; those that cannot be taken are passed
over. -/
def run (report : τ → Report) (store : OrderStore) (events : List (Event τ)) : Course τ :=
  events.foldl (fun c e => (step? report e c).getD c) (start store)

/-- The calls that were made. -/
def made (c : Course τ) : List (Made τ Call Answer State) := c.state.made

/-- The record of an order. -/
def record? (id : Uuid) (c : Course τ) : Option OrderValidation :=
  c.state.state.store.findValidation id

/-- The result of the work on a report, once there is one. -/
def result? (t : τ) (c : Course τ) : Option (Except ServiceError Outcome) :=
  match c.works.get? t with
  | some (.done result) => some result
  | _ => none

variable {report : τ → Report} {c c' : Course τ}

/-- **What a step can do**: it begins work, or answers a call. -/
theorem step_cases {e : Event τ} (h : step? report e c = some c') :
    (∃ t, e = .begin t ∧ c.works.get? t = none
        ∧ c' = { c with works := c.works.put t (report t).work })
      ∨ ∃ t w k next, e = .call t w ∧ c.works.get? t = some (.call k next)
        ∧ c' = ⟨(c.state.note w.answer t k).2,
          c.works.put t (next (c.state.note w.answer t k).1)⟩ := by
  cases e with
  | begin t =>
    obtain ⟨hnew, rfl⟩ := Workshop.begin?_eq_some h
    exact .inl ⟨t, rfl, hnew, rfl⟩
  | call t w =>
    have hadvance : c.advance? (fun k j => some (j.note w.answer t k)) t = some c' := h
    obtain ⟨k, next, a, state, hwork, ha, rfl⟩ := Workshop.advance?_eq_some hadvance
    obtain ⟨rfl, rfl⟩ := Prod.mk.inj (Option.some.inj ha)
    exact .inr ⟨t, w, k, next, rfl, hwork, rfl⟩

/-- A call with its answer, as it is noted. -/
def answered (w : World) (t : τ) (k : Call) (s : State) : Made τ Call Answer State :=
  ⟨t, k, (w.answer k s).1, s, (w.answer k s).2⟩

theorem run_concat (report : τ → Report) (store : OrderStore) (es : List (Event τ)) (e : Event τ) :
    run report store (es ++ [e])
      = (step? report e (run report store es)).getD (run report store es) := by
  unfold run
  rw [List.foldl_append]
  rfl

/-- **Every piece of work has come where its own calls have taken it.** -/
theorem logged_run (report : τ → Report) (store : OrderStore) (events : List (Event τ)) :
    (run report store events).Logged fun t => (report t).work := by
  induction events using List.reverseRecOn with
  | nil => exact Workshop.logged_empty _ _
  | append_singleton es e ih =>
    rw [run_concat]
    cases hs : step? report e (run report store es) with
    | none => exact ih
    | some c =>
      rcases step_cases hs with ⟨t, rfl, -, -⟩ | ⟨t, w, k, next, rfl, hwork, rfl⟩
      · exact ih.begin hs
      · exact ih.put hwork w.answer

/-- **One more step notes at most one call**, the next one of some work. -/
theorem state_run_concat (report : τ → Report) (store : OrderStore) (es : List (Event τ)) (e : Event τ) :
    (run report store (es ++ [e])).state = (run report store es).state
      ∨ ∃ t w k next, e = .call t w
        ∧ (run report store es).works.get? t = some (.call k next)
        ∧ (run report store (es ++ [e])).state = (run report store es).state.add
          (answered w t k (run report store es).state.state) := by
  rw [run_concat]
  cases hs : step? report e (run report store es) with
  | none => exact .inl rfl
  | some c =>
    rcases step_cases hs with ⟨t, rfl, -, rfl⟩ | ⟨t, w, k, next, rfl, hwork, rfl⟩
    · exact .inl rfl
    · exact .inr ⟨t, w, k, next, rfl, hwork, rfl⟩

/-- **Every call was answered by the world of a step.** -/
theorem exists_event_of_mem_made {store : OrderStore} {events : List (Event τ)}
    {m : Made τ Call Answer State} (h : m ∈ (run report store events).made) :
    ∃ w, .call m.task w ∈ events
      ∧ (w.answer m.call m.before).1 = m.answer ∧ (w.answer m.call m.before).2 = m.after := by
  unfold made at h
  induction events using List.reverseRecOn with
  | nil => cases h
  | append_singleton es e ih =>
    have hold : m ∈ (run report store es).state.made → ∃ w, .call m.task w ∈ es ++ [e]
        ∧ (w.answer m.call m.before).1 = m.answer ∧ (w.answer m.call m.before).2 = m.after := by
      intro hm
      obtain ⟨w, hw, hanswer⟩ := ih hm
      exact ⟨w, List.mem_append_left _ hw, hanswer⟩
    rcases state_run_concat report store es e with hstate | ⟨t, w, k, next, rfl, -, hstate⟩
    · rw [hstate] at h
      exact hold h
    · rw [hstate] at h
      rcases List.mem_append.1 h with h | h
      · exact hold h
      · obtain rfl := List.mem_singleton.1 h
        exact ⟨w, List.mem_append_right _ (List.mem_singleton_self _), rfl, rfl⟩

end Course

/-! ## The way of a report -/

/-- The record as a report wants it, from the one that was read. -/
def Report.next (r : Report) (x : Option OrderValidation) (now : Instant) : OrderValidation :=
  r.fact.applyTo now (x.getD (.start r.orderId now))

/-- The calls by which the order and its record have been read. -/
def Report.reading (r : Report) (o : Order) (x : Option OrderValidation) :
    List (Answered Call Answer) :=
  [⟨.findOrder r.orderId, .ok o⟩, ⟨.findValidation r.orderId, .ok x⟩]

/-- **The calls by which a report gets past the store**, with the record that it
goes on with: one that it leaves as it is, or one that the store has taken. -/
inductive Report.Past (r : Report) (o : Order) :
    List (Answered Call Answer) → OrderValidation → Prop where
  /-- The report leaves the record as it is. -/
  | unchanged {v : OrderValidation} {now : Instant} (h : v.sameState (r.next (some v) now) = true) :
    Past r o (r.reading o (some v) ++ [⟨.clock, now⟩]) v
  /-- The first version has been stored. -/
  | inserted {now : Instant} {stored : OrderValidation} :
    Past r o (r.reading o none
      ++ [⟨.clock, now⟩, ⟨.insertValidation (r.next none now), .ok stored⟩]) stored
  /-- A new version has been stored. -/
  | updated {v stored : OrderValidation} {now : Instant}
      (h : v.sameState (r.next (some v) now) = false) :
    Past r o (r.reading o (some v)
      ++ [⟨.clock, now⟩, ⟨.updateValidation (r.next (some v) now) v.updatedAt, .ok stored⟩]) stored

/-- **How far the work on a report can have come**: the calls that it has made,
and what is left of it. -/
inductive Report.Way (r : Report) :
    List (Answered Call Answer) → Work (Except ServiceError Outcome) → Prop where
  /-- It has not made a call. -/
  | asking : Way r [] r.work
  /-- The order was not found. -/
  | unknown {e : ServiceError} : Way r [⟨.findOrder r.orderId, .error e⟩] (.done (.error e))
  /-- The order was found. -/
  | found {o : Order} {next : Answer (.findValidation r.orderId) → Work _} :
    Way r [⟨.findOrder r.orderId, .ok o⟩] (.call (.findValidation r.orderId) next)
  /-- The record could not be read. -/
  | unread {o : Order} {e : ServiceError} :
    Way r [⟨.findOrder r.orderId, .ok o⟩, ⟨.findValidation r.orderId, .error e⟩] (.done (.error e))
  /-- The record was read, and the clock is next. -/
  | read {o : Order} {x : Option OrderValidation} {next : Answer .clock → Work _} :
    Way r (r.reading o x) (.call .clock next)
  /-- The report is of an unknown service. -/
  | ignored {o : Order} {x : Option OrderValidation} {now : Instant}
      (h : r.service ≠ Topic.courierService) :
    Way r (r.reading o x ++ [⟨.clock, now⟩]) (.done (.ok ⟨o, x.getD (.start r.orderId now), false⟩))
  /-- The first version is to be stored. -/
  | inserting {o : Order} {now : Instant} (h : r.service = Topic.courierService) :
    Way r (r.reading o none ++ [⟨.clock, now⟩])
      (.call (.insertValidation (r.next none now)) (settleStored r.fact o))
  /-- The first version was not stored. -/
  | notInserted {o : Order} {now : Instant} {e : ServiceError} :
    Way r (r.reading o none
      ++ [⟨.clock, now⟩, ⟨.insertValidation (r.next none now), .error e⟩]) (.done (.error e))
  /-- A new version is to be stored. -/
  | updating {o : Order} {v : OrderValidation} {now : Instant}
      (h : r.service = Topic.courierService) (hnew : v.sameState (r.next (some v) now) = false) :
    Way r (r.reading o (some v) ++ [⟨.clock, now⟩])
      (.call (.updateValidation (r.next (some v) now) v.updatedAt) (settleStored r.fact o))
  /-- A new version was not stored. -/
  | notUpdated {o : Order} {v : OrderValidation} {now : Instant} {e : ServiceError}
      (hnew : v.sameState (r.next (some v) now) = false) :
    Way r (r.reading o (some v)
      ++ [⟨.clock, now⟩, ⟨.updateValidation (r.next (some v) now) v.updatedAt, .error e⟩])
      (.done (.error e))
  /-- The report is past the store, and the order is being settled. -/
  | settling {o : Order} {l l' : List (Answered Call Answer)} {v : OrderValidation}
      {s : Work (Except ServiceError Outcome)} (h : r.service = Topic.courierService)
      (hpast : r.Past o l v) (hs : (settle r.fact o v).Trail l' s) :
    Way r (l ++ l') s

/-- The way from the record that was read. -/
theorem Report.way_of_trail_apply {r : Report} {o : Order} {x : Option OrderValidation}
    {l : List (Answered Call Answer)} {s : Work (Except ServiceError Outcome)}
    (h : (apply r.service r.fact r.orderId o x).Trail l s) : r.Way (r.reading o x ++ l) s := by
  unfold apply at h
  cases h with
  | refl => exact .read
  | @call _ _ now l s h =>
    split at h
    · next hcourier =>
      cases x with
      | none =>
        cases h with
        | refl => exact .inserting hcourier
        | @call _ _ a l s h =>
          cases a with
          | error e =>
            cases h
            exact .notInserted
          | ok stored => exact .settling (l := r.reading o none ++ [_, _]) hcourier .inserted h
      | some v =>
        unfold record at h
        dsimp only at h
        split at h
        · next hsame => exact .settling (l := r.reading o (some v) ++ [_]) hcourier (.unchanged hsame) h
        · next hdiffer =>
          have hnew : v.sameState (r.next (some v) now) = false := Bool.eq_false_iff.2 hdiffer
          cases h with
          | refl => exact .updating hcourier hnew
          | @call _ _ a l s h =>
            cases a with
            | error e =>
              cases h
              exact .notUpdated hnew
            | ok stored =>
              exact .settling (l := r.reading o (some v) ++ [_, _]) hcourier (.updated hnew) h
    · next hother =>
      cases h
      exact .ignored hother

/-- **Work on a report goes its way.** -/
theorem Report.way_of_trail {r : Report} {l : List (Answered Call Answer)}
    {s : Work (Except ServiceError Outcome)} (h : r.work.Trail l s) : r.Way l s := by
  unfold Report.work validate at h
  cases h with
  | refl => exact .asking
  | @call _ _ a l s h =>
    cases a with
    | error e =>
      cases h
      exact .unknown
    | ok o =>
      cases h with
      | refl => exact .found
      | @call _ _ a l s h =>
        cases a with
        | error e =>
          cases h
          exact .unread
        | ok x => exact way_of_trail_apply h

end CourierDispatch.OrderService
