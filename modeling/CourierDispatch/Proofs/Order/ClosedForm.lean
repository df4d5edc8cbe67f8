import CourierDispatch.Proofs.Order.OneReport
import Mathlib.Data.List.Induction

/-!
# Reports one after another

Calls of `validate` on one order, one after another, with any services and any
facts, and with any of the announcements failing. What they come to is read off
the reports of the courier service alone (`ofCourier`), in closed form: the first
approval stamps the record, the last report decides whether it is refused, any
approval accepts the order, and the last courier named by an approval is its
courier (`validation_closed_form`).

The proof goes by the calls from the first to the last. What is known after some
calls (`Gathered`) has the closed form for those calls; each further call adds
one report at the end, and every part of the closed form says how it changes
then.
-/

namespace CourierDispatch.OrderService

/-- **One call of `validate`**, with what the world adds to it. Only the
announcement can fail. -/
structure Submission where
  /-- The service that reports. -/
  service : String
  /-- What it reports. -/
  fact : ValidationFact
  /-- The reading of the clock. -/
  clock : Instant
  /-- The time at which the record is written. -/
  written : Instant
  /-- What becomes of the announcement. -/
  announcing : Fate

/-- The world of a call. -/
def Submission.world (u : Submission) : World
  | .clock => ⟨u.clock, default, .works⟩
  | .publish _ _ => ⟨u.written, default, u.announcing⟩
  | _ => ⟨u.written, default, .works⟩

/-- Makes a call about an order. -/
def submit (id : Uuid) (u : Submission) (s : State) : Except ServiceError Outcome × State :=
  (validate u.service id u.fact).run u.world.answer s

/-- Makes calls about an order, one after another. -/
def submitAll (id : Uuid) (us : List Submission) (s : State) : State :=
  us.foldl (fun s u => (submit id u s).2) s

/-- How many times a call attempts to announce an update. -/
def attempts (id : Uuid) (u : Submission) (s : State) : Nat :=
  updates u.world (validate u.service id u.fact) s

/-! ## The closed form -/

/-- The calls that bring a report of the courier service. -/
def ofCourier (us : List Submission) : List Submission :=
  us.filter fun u => u.service = Topic.courierService

/-- When the first approval was taken in. -/
def firstApproval (us : List Submission) : Option Instant :=
  (us.find? (·.fact.isSuccessful)).map (·.clock)

/-- Why the last report refuses, if it does. -/
def lastRefusal (us : List Submission) : Option String :=
  us.getLast?.bind fun u =>
    if u.fact.isSuccessful then none
    else some (u.fact.error.getD ValidationFact.defaultError)

/-- The last courier that an approval names. -/
def lastCourier (us : List Submission) : Option Uuid := (us.filterMap (·.fact.courier?)).getLast?

/-- Whether there is an approval. -/
def hasApproval (us : List Submission) : Bool := us.any (·.fact.isSuccessful)

section
variable (us : List Submission) (u : Submission)

theorem firstApproval_concat : firstApproval (us ++ [u])
    = (firstApproval us).or (if u.fact.isSuccessful then some u.clock else none) := by
  unfold firstApproval
  rw [List.find?_append, List.find?_singleton]
  cases us.find? (·.fact.isSuccessful) with
  | some v => rfl
  | none => cases u.fact.isSuccessful <;> rfl

theorem lastRefusal_concat : lastRefusal (us ++ [u])
    = if u.fact.isSuccessful then none
      else some (u.fact.error.getD ValidationFact.defaultError) := by
  unfold lastRefusal
  rw [List.getLast?_concat]
  rfl

theorem lastCourier_concat :
    lastCourier (us ++ [u]) = (u.fact.courier? <|> lastCourier us) := by
  unfold lastCourier
  rw [List.filterMap_append]
  cases hc : u.fact.courier? with
  | none => simp [hc]
  | some c => simp [hc]

theorem hasApproval_concat : hasApproval (us ++ [u]) = (hasApproval us || u.fact.isSuccessful) := by
  unfold hasApproval
  simp

end

/-! ## What is known after some calls -/

variable {id : Uuid} {o₀ : Order} {us : List Submission} {u : Submission} {s : State}

theorem stores_world (u : Submission) : u.world.Stores := by
  intro c hc
  cases c with
  | publish o event => exact absurd rfl (hc o event)
  | _ => rfl

/-- The order as reports leave it. -/
def gatheredOrder (o₀ : Order) (us : List Submission) : Order :=
  { o₀ with
    courierId := lastCourier us
    status := if hasApproval us then .accepted else .pending }

/-- **What is known after reports** of the courier service about an order that was
pending. -/
structure Gathered (id : Uuid) (o₀ : Order) (us : List Submission) (s : State) : Prop where
  /-- Everything stands under its own identifier. -/
  keyed : s.store.Keyed
  /-- The order. -/
  order : s.store.orders.get? id = some (gatheredOrder o₀ us)
  /-- There is a record if there was a report. -/
  recorded : s.store.validations.get? id = none ↔ us = []
  /-- The time of approval. -/
  approvedAt : (s.store.validations.get? id).bind (·.courierValidatedAt) = firstApproval us
  /-- The reason of refusal. -/
  refusal : (s.store.validations.get? id).bind (·.courierError) = lastRefusal us

/-- An order that was just created. -/
theorem gathered_nil (hkeyed : s.store.Keyed) (ho : s.store.orders.get? id = some o₀)
    (hpending : o₀.status = .pending) (hnone : o₀.courierId = none)
    (hnew : s.store.validations.get? id = none) : Gathered id o₀ [] s where
  keyed := hkeyed
  order := by
    rw [ho]
    obtain ⟨id', courierId, phoneNumber, status, createdAt⟩ := o₀
    obtain rfl : courierId = none := hnone
    obtain rfl : status = .pending := hpending
    rfl
  recorded := ⟨fun _ => rfl, fun _ => hnew⟩
  approvedAt := by rw [hnew]; rfl
  refusal := by rw [hnew]; rfl

/-- The order after one more report. -/
theorem gatheredOrder_concat (o₀ : Order) (us : List Submission) (u : Submission) :
    (gatheredOrder o₀ us).after u.fact = gatheredOrder o₀ (us ++ [u]) := by
  unfold gatheredOrder Order.after
  rw [lastCourier_concat, hasApproval_concat]
  cases hasApproval us <;> cases u.fact.isSuccessful <;> rfl

/-- **A report adds to what is known.** -/
theorem Gathered.concat (h : Gathered id o₀ us s) (hu : u.service = Topic.courierService) :
    Gathered id o₀ (us ++ [u]) (submit id u s).2 := by
  unfold submit
  rw [hu]
  obtain ⟨horder, v, hv, hrec⟩ :=
    (takenIn_run (w := u.world) h.keyed h.order u.fact).complete (.inl (stores_world u))
  obtain ⟨hat, herr⟩ := OrderValidation.sameState_iff.1 hrec.sameState
  have hstart : ((s.store.validations.get? id).getD (.start id u.clock)).courierValidatedAt
      = firstApproval us := by
    rw [← h.approvedAt]
    cases s.store.validations.get? id <;> rfl
  refine ⟨keyed_run h.keyed _, ?_, ?_, ?_, ?_⟩
  · rw [horder, gatheredOrder_concat]
  · rw [hv]
    simp
  · have hclock : (u.world .clock).now = u.clock := rfl
    rw [hv, firstApproval_concat, Option.bind_some, hat, ← hstart, hclock]
    generalize (s.store.validations.get? id).getD (.start id u.clock) = r
    unfold ValidationFact.applyTo
    -- the first approval stamps the record; a later one finds the stamp
    cases u.fact.isSuccessful <;> cases r.courierValidatedAt <;> rfl
  · rw [hv, lastRefusal_concat, Option.bind_some, herr]
    unfold ValidationFact.applyTo
    cases u.fact.isSuccessful <;> rfl

/-- A report of an unknown service adds nothing. -/
theorem submit_of_ne (h : Gathered id o₀ us s) (hu : u.service ≠ Topic.courierService) :
    (submit id u s).2 = s := (run_of_ne hu h.order).1

/-- The reports of the courier service, with one more call. -/
theorem ofCourier_concat (us : List Submission) (u : Submission) : ofCourier (us ++ [u])
    = if u.service = Topic.courierService then ofCourier us ++ [u] else ofCourier us := by
  unfold ofCourier
  rw [List.filter_append]
  split
  · next h => simp [h]
  · next h => simp [h]

theorem submitAll_concat (id : Uuid) (us : List Submission) (u : Submission) (s : State) :
    submitAll id (us ++ [u]) s = (submit id u (submitAll id us s)).2 := by
  unfold submitAll
  rw [List.foldl_append]
  rfl

/-- **What is known after calls** of any services. -/
theorem gathered_submitAll (us : List Submission) (h : Gathered id o₀ [] s) :
    Gathered id o₀ (ofCourier us) (submitAll id us s) := by
  induction us using List.reverseRecOn with
  | nil => exact h
  | append_singleton us u ih =>
    rw [submitAll_concat, ofCourier_concat]
    split
    · next hu => exact ih.concat hu
    · next hu =>
      rw [submit_of_ne ih hu]
      exact ih

/-! ## What a call does -/

/-- **Updates are announced for approvals of the courier service**, once for
each. -/
theorem attempts_eq (h : Gathered id o₀ us s) (u : Submission) :
    attempts id u s
      = if u.service = Topic.courierService ∧ u.fact.isSuccessful = true then 1 else 0 := by
  unfold attempts
  by_cases hu : u.service = Topic.courierService
  · rw [hu, updates_validate (stores_world u) h.keyed h.order]
    simp
  · rw [updates_of_ne (stores_world u) hu h.order, if_neg fun hboth => hu hboth.1]

/-- **A call accepts the order if it brings the first approval.** -/
theorem accepted_eq (h : Gathered id o₀ us s) {out : Outcome} (hout : (submit id u s).1 = .ok out) :
    out.accepted = true ↔ u.service = Topic.courierService ∧ u.fact.isSuccessful = true
      ∧ hasApproval us = false := by
  by_cases hu : u.service = Topic.courierService
  · unfold submit at hout
    rw [hu] at hout
    rw [(takenIn_run h.keyed h.order u.fact).result out hout]
    unfold gatheredOrder
    cases u.fact.isSuccessful <;> cases hasApproval us <;> simp [hu]
  · rw [(run_of_ne hu h.order).2 out hout]
    simp [hu]

/-! ## Tokens -/

/-- **Tokens are up to date**: no token was given out beyond `B`, and the record of
the order has one that was given out. -/
structure Dated (id : Uuid) (B : Int) (s : State) : Prop where
  /-- The last token. -/
  lastToken : s.store.lastToken ≤ B
  /-- The token of the record. -/
  updatedAt : ∀ v, s.store.validations.get? id = some v → v.updatedAt.micros ≤ s.store.lastToken

/-- The times of a call are not beyond `B`. -/
def Submission.Within (B : Int) (u : Submission) : Prop :=
  u.clock.micros ≤ B ∧ u.written.micros ≤ B

theorem Submission.Within.now_le {B : Int} (h : u.Within B) (c : Call) :
    (u.world c).now.micros ≤ B := by
  cases c with
  | clock => exact h.1
  | _ => exact h.2

/-- **What a report does to the token** of a record: it gets a later one if the
record changes. -/
theorem token_of_recorded {B : Int} {existing : Option OrderValidation}
    {next v : OrderValidation} {s s' : State} (h : Recorded u.world existing next v s.store s'.store)
    (hexisting : s.store.validations.get? id = existing) (hdated : Dated id B s)
    (hwithin : u.Within B) (hB : B < Instant.lastMicros) :
    s'.store.lastToken ≤ B + 1 ∧ v.updatedAt.micros ≤ s'.store.lastToken
      ∧ ∀ v₀, existing = some v₀ → v₀.sameState v = false →
        v₀.updatedAt.micros < v.updatedAt.micros := by
  subst hexisting
  rcases h with ⟨hv, -, hlast⟩ | ⟨-, c, rfl, hlast⟩
  · refine ⟨?_, ?_, fun v₀ hv₀ hdiffer => ?_⟩
    · rw [hlast]
      exact Int.le_trans hdated.lastToken (by omega)
    · rw [hlast]
      exact hdated.updatedAt v hv
    · obtain rfl := Option.some.inj (hv.symm.trans hv₀)
      rw [OrderValidation.sameState_iff.2 ⟨rfl, rfl⟩] at hdiffer
      cases hdiffer
  · obtain ⟨hmicros, hnext, hlater, hhigh⟩ :=
      micros_writeValidation next (hwithin.now_le c) hdated.lastToken hB
    rw [hlast, hnext, hmicros]
    refine ⟨hhigh, Int.le_refl _, fun v₀ hv₀ _ => ?_⟩
    exact Int.lt_of_le_of_lt (hdated.updatedAt v₀ hv₀) hlater

/-- **What a call does to the token** of the record. -/
theorem Dated.submit {B : Int} (h : Dated id B s) (hgathered : Gathered id o₀ us s)
    (hwithin : u.Within B) (hB : B < Instant.lastMicros) :
    Dated id (B + 1) (submit id u s).2
      ∧ ∀ v v', s.store.validations.get? id = some v →
        (submit id u s).2.store.validations.get? id = some v' → v.sameState v' = false →
        v.updatedAt.micros < v'.updatedAt.micros := by
  by_cases hu : u.service = Topic.courierService
  · obtain ⟨-, v, hv, hrec⟩ := (takenIn_run (w := u.world) hgathered.keyed hgathered.order
      u.fact).complete (.inl (stores_world u))
    obtain ⟨hlast, hdate, htoken⟩ := token_of_recorded hrec rfl h hwithin hB
    unfold OrderService.submit
    rw [hu]
    refine ⟨⟨hlast, fun v' hv' => ?_⟩, fun v₀ v' hv₀ hv' => ?_⟩
    · obtain rfl := Option.some.inj (hv.symm.trans hv')
      exact hdate
    · obtain rfl := Option.some.inj (hv.symm.trans hv')
      exact htoken v₀ hv₀
  · rw [submit_of_ne hgathered hu]
    refine ⟨⟨Int.le_trans h.lastToken (by omega), h.updatedAt⟩, fun v v' hv hv' hdiffer => ?_⟩
    obtain rfl := Option.some.inj (hv.symm.trans hv')
    rw [OrderValidation.sameState_iff.2 ⟨rfl, rfl⟩] at hdiffer
    cases hdiffer

/-- A record that says the same after a call is the same. -/
theorem eq_of_sameState_submit (h : Gathered id o₀ us s) {v v' : OrderValidation}
    (hv : s.store.validations.get? id = some v)
    (hv' : (submit id u s).2.store.validations.get? id = some v') (hsame : v.sameState v' = true) :
    v' = v := by
  by_cases hu : u.service = Topic.courierService
  · obtain ⟨-, v'', hv'', hrec⟩ := (takenIn_run (w := u.world) h.keyed h.order
      u.fact).complete (.inl (stores_world u))
    unfold submit at hv'
    rw [hu, hv''] at hv'
    obtain rfl := Option.some.inj hv'
    exact hrec.eq_of_sameState hv hsame
  · rw [submit_of_ne h hu] at hv'
    exact Option.some.inj (hv'.symm.trans hv)

/-- Tokens stay up to date along calls, with room for one token a call. -/
theorem dated_submitAll {B : Int} (hgathered : Gathered id o₀ [] s) (h : Dated id B s)
    (us : List Submission) (hwithin : ∀ u ∈ us, u.Within B)
    (hB : B + us.length ≤ Instant.lastMicros) : Dated id (B + us.length) (submitAll id us s) := by
  induction us using List.reverseRecOn with
  | nil => simpa [submitAll] using h
  | append_singleton us u ih =>
    rw [List.length_append, List.length_singleton] at hB ⊢
    have hbefore := ih (fun u hu => hwithin u (List.mem_append_left _ hu)) (by omega)
    have hu : u.Within (B + us.length) := by
      obtain ⟨hclock, hwritten⟩ := hwithin u (List.mem_append_right _ (List.mem_singleton_self u))
      exact ⟨by omega, by omega⟩
    rw [submitAll_concat]
    have hstep := (hbefore.submit (gathered_submitAll us hgathered) hu (by omega)).1
    rw [Int.add_assoc] at hstep
    exact_mod_cast hstep

/-! ## The main statement -/

theorem hasApproval_eq_true_iff : hasApproval us = true ↔ ∃ u ∈ us, u.fact.isSuccessful = true :=
  List.any_eq_true

theorem hasApproval_eq_false_iff :
    hasApproval us = false ↔ ∀ u ∈ us, u.fact.isSuccessful = false := by
  unfold hasApproval
  simp

/-- **Reports about a new order, in closed form.** Let an order be stored as it is
created, and let calls of `validate` follow, one after another, in which any of the
announcements fail. By the reports of the courier service among them:

* there is a record if there is a report; it shows when the first approval was
  taken in, and the reason of the last report if that refuses;
* the order is accepted if there is an approval, with the last courier that an
  approval names;
* an update is announced, or attempted to be, once for every approval and never
  otherwise, and of the calls that end well the one with the first approval says
  that it has accepted the order;
* a call that leaves what the record says leaves the record, with its token; a call
  that changes it gives the record a later token, if clocks stay away from the last
  instant. -/
theorem validation_closed_form {id : Uuid} {phoneNumber : String} {createdAt : Instant} {s : State}
    (us : List Submission) (hkeyed : s.store.Keyed)
    (hcreated : s.store.orders.get? id = some (.create id phoneNumber createdAt))
    (hnew : s.store.validations.get? id = none) :
    let F := ofCourier us
    let s' := submitAll id us s
    ((s'.store.findValidation id = none ↔ F = [])
        ∧ ∀ v, s'.store.findValidation id = some v →
          v.courierValidatedAt = firstApproval F ∧ v.courierError = lastRefusal F)
      ∧ (∃ o, s'.store.findOrder id = .ok o
          ∧ (o.status = .accepted ↔ ∃ u ∈ F, u.fact.isSuccessful = true)
          ∧ o.courierId = lastCourier F)
      ∧ (∀ pre u post, us = pre ++ u :: post →
          attempts id u (submitAll id pre s)
              = (if u.service = Topic.courierService ∧ u.fact.isSuccessful = true then 1 else 0)
            ∧ ∀ out, (submit id u (submitAll id pre s)).1 = .ok out →
              (out.accepted = true ↔ u.service = Topic.courierService
                ∧ u.fact.isSuccessful = true ∧ ∀ u' ∈ ofCourier pre, u'.fact.isSuccessful = false))
      ∧ ∀ pre u post, us = pre ++ u :: post →
          ∀ v v', (submitAll id pre s).store.findValidation id = some v →
            (submit id u (submitAll id pre s)).2.store.findValidation id = some v' →
            (v.sameState v' = true → v' = v)
              ∧ ∀ B, s.store.lastToken ≤ B → (∀ u ∈ us, u.Within B) →
                B + us.length ≤ Instant.lastMicros →
                (v'.updatedAt ≠ v.updatedAt ↔ v.sameState v' = false)
                  ∧ v.updatedAt.micros ≤ v'.updatedAt.micros := by
  intro F s'
  have hstart : Gathered id (.create id phoneNumber createdAt) [] s :=
    gathered_nil hkeyed hcreated rfl rfl hnew
  have hend : Gathered id (.create id phoneNumber createdAt) F s' := gathered_submitAll us hstart
  refine ⟨⟨hend.recorded, fun v hv => ?_⟩, ?_, ?_, ?_⟩
  · have hget : s'.store.validations.get? id = some v := hv
    have hat := hend.approvedAt
    have hwhy := hend.refusal
    rw [hget] at hat hwhy
    exact ⟨hat, hwhy⟩
  · refine ⟨_, by rw [OrderStore.findOrder, hend.order], ?_, rfl⟩
    rw [← hasApproval_eq_true_iff]
    show (if hasApproval F then OrderStatus.accepted else .pending) = .accepted ↔ _
    cases hasApproval F <;> simp
  · rintro pre u post -
    have hbefore := gathered_submitAll pre hstart
    refine ⟨attempts_eq hbefore u, fun out hout => ?_⟩
    rw [accepted_eq hbefore hout, hasApproval_eq_false_iff]
  · rintro pre u post rfl v v' hv hv'
    have hpre := gathered_submitAll pre hstart
    have hkept : v.sameState v' = true → v' = v := eq_of_sameState_submit hpre hv hv'
    refine ⟨hkept, fun B hlast hwithin hB => ?_⟩
    rw [List.length_append, List.length_cons] at hB
    have hdated : Dated id B s :=
      ⟨hlast, fun v hv => by rw [hnew] at hv; cases hv⟩
    have hbefore := dated_submitAll hstart hdated pre
      (fun u hu => hwithin u (List.mem_append_left _ hu)) (by omega)
    have hu : u.Within (B + pre.length) := by
      obtain ⟨hclock, hwritten⟩ := hwithin u (by simp)
      exact ⟨by omega, by omega⟩
    have hlater := (hbefore.submit hpre hu (by omega)).2 v v' hv hv'
    cases hsame : v.sameState v' with
    | true =>
      obtain rfl := hkept hsame
      simp
    | false =>
      have hlt := hlater hsame
      refine ⟨⟨fun _ => rfl, fun _ heq => ?_⟩, Int.le_of_lt hlt⟩
      rw [heq] at hlt
      exact Int.lt_irrefl _ hlt

/-- A refusal, a report of another service, an approval that cannot be announced,
and an approval that names another courier. -/
theorem validation_closed_form_two_approvals :
    let s : State := { store := OrderStore.empty.insertOrder (.create ⟨7⟩ "+4912345" .epoch) }
    let us : List Submission :=
      [⟨"courier", ⟨false, none, none⟩, .epoch, .epoch, .works⟩,
        ⟨"warehouse", ⟨true, some ⟨3⟩, none⟩, .epoch, .epoch, .works⟩,
        ⟨"courier", ⟨true, some ⟨1⟩, none⟩, .epoch, .epoch, .refused (.transport "unreachable")⟩,
        ⟨"courier", ⟨true, some ⟨2⟩, none⟩, .epoch, .epoch, .works⟩]
    s.store.Keyed ∧ s.store.orders.get? ⟨7⟩ = some (.create ⟨7⟩ "+4912345" .epoch)
      ∧ s.store.validations.get? ⟨7⟩ = none
      ∧ ∃ o, (submitAll ⟨7⟩ us s).store.findOrder ⟨7⟩ = .ok o ∧ o.status = .accepted
        ∧ o.courierId = some ⟨2⟩ := by
  intro s us
  have hkeyed : s.store.Keyed := OrderStore.Keyed.empty.insertOrder _
  have hcreated : s.store.orders.get? ⟨7⟩ = some (.create ⟨7⟩ "+4912345" .epoch) :=
    Table.get?_put_self _ _ _
  obtain ⟨-, ⟨o, ho, hstatus, hcourier⟩, -, -⟩ := validation_closed_form us hkeyed hcreated rfl
  have happroved : hasApproval (ofCourier us) = true := by decide
  have hlast : lastCourier (ofCourier us) = some ⟨2⟩ := by decide
  exact ⟨hkeyed, hcreated, rfl, o, ho, hstatus.2 (hasApproval_eq_true_iff.1 happroved),
    hcourier.trans hlast⟩

end CourierDispatch.OrderService
