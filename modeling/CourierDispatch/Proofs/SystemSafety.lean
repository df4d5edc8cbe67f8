import CourierDispatch.Proofs.Courier.AssignmentRuns
import CourierDispatch.Proofs.Courier.Reports
import CourierDispatch.Proofs.Order.Acceptance

/-!
# The two services agree

Orders are stored by one service and couriers by another, and all that passes
between them are messages, which come late, twice and in any order. Still, an
order is accepted only for the courier that it was given, two orders never name
one courier, and all reports of an order agree (`system_safety`).

Each service keeps a contract (`Proofs.Order.Acceptance` and
`Proofs.Courier.Reports`), and what both contracts speak of are the couriers
given to orders. These only ever grow, so that a step of one service never
takes from the other what it relies on.
-/

namespace CourierDispatch

/-! ## A report on its way -/

/-- The report of an assignment is read as the approval of its courier. -/
theorem OrderService.ofJson?_report (a : Assignment) :
    Report.ofJson? a.report.toJson
      = some ⟨Topic.courierService, a.orderId, ⟨true, some a.courierId, none⟩⟩ := by
  have hmessage : a.report = Report.message
      ⟨Topic.courierService, a.orderId, ⟨true, some a.courierId, none⟩⟩ := rfl
  rw [hmessage, Report.ofJson?_message]

/-- Handling the report of an assignment stores only what tallies. -/
theorem OrderService.keeps_handle_report {given : Uuid → Uuid → Prop} {a : Assignment}
    (h : given a.orderId a.courierId) :
    (handle a.report.toJson).Keeps tallying anyResult given := by
  unfold handle
  rw [ofJson?_report]
  refine Script.Keeps.bind (keeps_validate h _) ?_
  rintro given' _ (e | out) _
  · dsimp only
    split <;> exact .done trivial
  · exact .done trivial

namespace System

variable {τ : Type} [DecidableEq τ]

/-! ## The invariant -/

/-- The couriers that orders were given. -/
abbrev given (s : System τ) : Uuid → Uuid → Prop := s.couriers.state.desk.store.Paired

/-- **What is true of the system at every moment.** -/
structure Sound (s : System τ) : Prop where
  /-- The desk is sound. -/
  desk : s.couriers.state.desk.Sound
  /-- Everything reported is an assignment. -/
  reported : s.couriers.state.Reported
  /-- What the courier service still does is by its contract. -/
  reporting : s.couriers.Keeps CourierService.reporting anyResult s.given
  /-- Orders stand under their own identifiers. -/
  keyed : s.orders.state.store.Keyed
  /-- Orders tally with the couriers that they were given. -/
  tallies : s.orders.state.store.Tallies s.given
  /-- What the order service still does is by its contract. -/
  tallying : s.orders.Keeps OrderService.tallying anyResult s.given

theorem monotone_anyResult {W α : Type} [Preorder W] (a : α) :
    Monotone fun w : W => anyResult w a :=
  fun _ _ _ h => h

theorem sound_empty : ({} : System τ).Sound where
  desk := AssignmentDesk.sound_opened List.nodup_nil
  reported := fun _ h => by cases h
  reporting := fun _ _ h => by cases h
  keyed := .empty
  tallies := fun _ _ h => by cases h
  tallying := fun _ _ h => by cases h

/-- Every assignment found is found after a step at the desk. -/
theorem given_le_of_step {d d' : AssignmentDesk τ} {e : AssignmentDesk.Event τ} (h : d.Sound)
    (hs : d.step? e = some d') : d.store.Paired ≤ d'.store.Paired :=
  fun _ _ ⟨a, ha, hac⟩ => ⟨a, h.findAssignment_step (AssignmentDesk.step_of_step? hs) ha, hac⟩

/-! ## The steps -/

variable {s s' : System τ}

/-- Work of the order service may begin. -/
theorem Sound.beginOrder (h : s.Sound) {t : τ}
    {work : Script OrderService.Call OrderService.Answer Unit}
    {orders : Workshop τ OrderService.Call OrderService.Answer Unit OrderService.State}
    (hwork : work.Keeps OrderService.tallying anyResult s.given)
    (hbegin : s.orders.begin? t work = some orders) : { s with orders }.Sound := by
  obtain ⟨hkeeps, hstate⟩ := h.tallying.begin hwork hbegin
  refine { h with keyed := ?_, tallies := ?_, tallying := hkeeps }
  · show orders.state.store.Keyed
    rw [hstate]
    exact h.keyed
  · show orders.state.store.Tallies _
    rw [hstate]
    exact h.tallies

/-- Work of the courier service may begin. -/
theorem Sound.beginCourier (h : s.Sound) {t : τ}
    {work : Script CourierService.Call CourierService.Answer Unit}
    {couriers : Workshop τ CourierService.Call CourierService.Answer Unit (CourierFloor τ)}
    (hwork : work.Keeps CourierService.reporting anyResult s.given)
    (hbegin : s.couriers.begin? t work = some couriers) : { s with couriers }.Sound := by
  obtain ⟨hkeeps, hstate⟩ := h.reporting.begin hwork hbegin
  obtain ⟨state, works⟩ := couriers
  obtain rfl : state = s.couriers.state := hstate
  exact { h with reporting := hkeeps }

/-- Work of the order service goes on by its contract. -/
theorem Sound.orderCall (h : s.Sound) {t : τ} {m : Moment}
    {orders : Workshop τ OrderService.Call OrderService.Answer Unit OrderService.State}
    (hs : s.orders.advance? (fun c st => some (OrderService.answer m c st)) t = some orders) :
    { s with orders }.Sound := by
  obtain ⟨c, next, a, state, hwork, ha, rfl⟩ := Workshop.advance?_eq_some hs
  have hmay : OrderService.mayStore s.given c := (h.tallying hwork).of_call.1
  obtain ⟨rfl, rfl⟩ := Prod.mk.inj (Option.some.inj ha)
  exact { h with
    keyed := h.keyed.answer m c
    tallies := OrderService.tallies_answer h.keyed h.tallies m hmay
    tallying := h.tallying.advance monotone_anyResult hwork le_rfl
      (OrderService.answerable_answer h.keyed m c) _ }

/-- Work of the courier service goes on by its contract. -/
theorem Sound.courierCall (h : s.Sound) {t : τ} {m : Moment}
    {couriers : Workshop τ CourierService.Call CourierService.Answer Unit (CourierFloor τ)}
    (hs : s.couriers.advance? (CourierFloor.answer? t m) t = some couriers) :
    { s with couriers }.Sound := by
  obtain ⟨c, next, a, floor, hwork, ha, rfl⟩ := Workshop.advance?_eq_some hs
  have hmay : CourierService.mayCall s.given c := (h.reporting hwork).of_call.1
  obtain ⟨hdesk, hreported, htold⟩ := CourierFloor.answer?_eq_some h.desk h.reported hmay ha
  have hkeeps := h.reporting.advance monotone_anyResult hwork le_rfl htold floor
  obtain ⟨desk, reports, positions⟩ := floor
  obtain rfl : desk = s.couriers.state.desk := hdesk
  exact { h with reported := hreported, reporting := hkeeps }

/-- Steps at the desk only add to the couriers that orders were given. -/
theorem Sound.deskStep (h : s.Sound) {e : AssignmentDesk.Event τ} (hs : s.deskStep? e = some s') :
    s'.Sound := by
  unfold deskStep? at hs
  split at hs
  · next hallows =>
    obtain ⟨desk, hstep, rfl⟩ := Option.map_eq_some_iff.1 hs
    have hle := given_le_of_step h.desk hstep
    refine {
      desk := h.desk.step ?_ (AssignmentDesk.step_of_step? hstep)
      reported := ?_
      reporting := fun _ _ hw => (h.reporting hw).mono monotone_anyResult hle
      keyed := h.keyed
      tallies := fun _ _ ho => (h.tallies ho).mono hle
      tallying := h.tallying.mono monotone_anyResult hle }
    · intro x hx
      cases e with
      | insert y =>
        obtain rfl : y = x := Option.some.inj hx
        unfold CourierFloor.allows at hallows
        rw [Bool.and_eq_true] at hallows
        simpa using hallows.2
      | _ => cases hx
    · intro r hr
      obtain ⟨a, ha, hra⟩ := h.reported r hr
      exact ⟨a, h.desk.findAssignment_step (AssignmentDesk.step_of_step? hstep) ha, hra⟩
  · cases hs

/-- **Every step keeps the system sound.** -/
theorem Sound.step (h : s.Sound) {e : Event τ} (hs : s.step? e = some s') : s'.Sound := by
  cases e with
  | create t phoneNumber =>
    obtain ⟨orders, hbegin, rfl⟩ := Option.map_eq_some_iff.1 hs
    refine h.beginOrder ?_ hbegin
    exact (OrderService.keeps_createOrder _).bind fun _ _ _ _ => .done trivial
  | deliverOrder t n =>
    simp only [step?, Option.bind_eq_bind, Option.bind_eq_some_iff, Option.some.injEq] at hs
    obtain ⟨a, -, couriers, hbegin, rfl⟩ := hs
    refine h.beginCourier ?_ hbegin
    exact (CourierService.keeps_handle a.message.toJson s.given).bind fun _ _ _ _ => .done trivial
  | deliverReport t n =>
    simp only [step?, Option.bind_eq_bind, Option.bind_eq_some_iff, Option.some.injEq] at hs
    obtain ⟨r, hr, orders, hbegin, rfl⟩ := hs
    obtain ⟨a, ha, rfl⟩ := h.reported r (List.mem_of_getElem? hr)
    have hgiven : s.given a.orderId a.courierId := ⟨a, ha, rfl⟩
    refine h.beginOrder ?_ hbegin
    exact (OrderService.keeps_handle_report hgiven).bind fun _ _ _ _ => .done trivial
  | orderCall t m =>
    obtain ⟨orders, hadvance, rfl⟩ := Option.map_eq_some_iff.1 hs
    exact h.orderCall hadvance
  | courierCall t m =>
    obtain ⟨couriers, hadvance, rfl⟩ := Option.map_eq_some_iff.1 hs
    exact h.courierCall hadvance
  | desk e => exact h.deskStep hs

/-- **Every run keeps the system sound.** -/
theorem sound_run (events : List (Event τ)) : (run events).Sound := by
  unfold run
  induction events using List.reverseRecOn with
  | nil => exact sound_empty
  | append_singleton es e ih =>
    rw [List.foldl_append]
    generalize List.foldl (fun s e => (step? e s).getD s) ({} : System τ) es = s at ih ⊢
    show ((s.step? e).getD s).Sound
    cases hs : s.step? e with
    | none => exact ih
    | some s' => exact ih.step hs

/-! ## The main statement -/

/-- An order that is found tallies with the couriers given, and is the one asked
for. -/
theorem Sound.tallies_of_findOrder (h : s.Sound) {id : Uuid} {o : Order}
    (ho : s.orders.state.store.findOrder id = .ok o) : o.id = id ∧ o.Tallies s.given := by
  unfold OrderStore.findOrder at ho
  split at ho
  · next hget =>
    obtain rfl := Except.ok.inj ho
    exact ⟨h.keyed.order hget, h.tallies hget⟩
  · cases ho

/-- The courier of an order is the one that the order was given. -/
theorem Sound.given_of_courierId (h : s.Sound) {id c : Uuid} {o : Order}
    (ho : s.orders.state.store.findOrder id = .ok o) (hc : o.courierId = some c) :
    s.given id c := by
  obtain ⟨rfl, ⟨-, hnone⟩ | ⟨-, c', hc', hgiven⟩⟩ := h.tallies_of_findOrder ho
  · rw [hnone] at hc
    cases hc
  · obtain rfl := Option.some.inj (hc.symm.trans hc')
    exact hgiven

/-- **Orders and couriers agree**, whatever was delivered late, twice or out of
order, whatever calls failed, and however the work of the two services fell
between one another. An order is pending without a courier, or accepted with
the courier of its assignment; no two orders have one courier; the courier of an
order is stored as unavailable; and all reports of an order name one courier. -/
theorem system_safety (events : List (Event τ)) :
    let orders := (run events).orders.state.store
    let floor := (run events).couriers.state
    (∀ id o, orders.findOrder id = .ok o →
        (o.status = .pending ∧ o.courierId = none)
          ∨ ∃ a, floor.desk.store.findAssignment id = some a
              ∧ o.status = .accepted ∧ o.courierId = some a.courierId)
      ∧ (∀ id id' o o' c, orders.findOrder id = .ok o → orders.findOrder id' = .ok o' →
          o.courierId = some c → o'.courierId = some c → id = id')
      ∧ (∀ id o c, orders.findOrder id = .ok o → o.courierId = some c →
          ∃ x, floor.desk.store.findCourier c = .ok x ∧ x.isAvailable = false)
      ∧ ∀ r ∈ floor.reports, ∀ r' ∈ floor.reports, r.orderId = r'.orderId →
          r.courierId = r'.courierId ∧ r.courierId.isSome = true := by
  intro orders floor
  have h : (run events).Sound := sound_run events
  refine ⟨?_, ?_, ?_, ?_⟩
  · intro id o ho
    obtain ⟨rfl, hpending | ⟨hstatus, c, hc, a, ha, rfl⟩⟩ := h.tallies_of_findOrder ho
    · exact .inl hpending
    · exact .inr ⟨a, ha, hstatus, hc⟩
  · intro id id' o o' c ho ho' hc hc'
    exact h.desk.apart (.inl (h.given_of_courierId ho hc)) (.inl (h.given_of_courierId ho' hc'))
  · intro id o c ho hc
    have htaken := h.desk.taken (.inl (h.given_of_courierId ho hc))
    exact AssignmentDesk.findCourier_of_taken h.desk.nodup htaken
  · intro r hr r' hr' heq
    obtain ⟨a, ha, rfl⟩ := h.reported r hr
    obtain ⟨a', ha', rfl⟩ := h.reported r' hr'
    have horder : a.orderId = a'.orderId := Uuid.toText_inj heq
    rw [← horder, ha] at ha'
    obtain rfl := Option.some.inj ha'
    exact ⟨rfl, rfl⟩

/-- An order is asked for, announced, given to the one courier, reported and
accepted. -/
example :
    let m : Moment := ⟨.epoch, ⟨7⟩, .works⟩
    let events : List (Event Nat) :=
      [.desk (.insert ⟨⟨1⟩, "first", true⟩), .create 0 "+4912345"]
        ++ List.replicate 4 (.orderCall 0 m)
        ++ [.deliverOrder 1 0, .desk (.call 1 ⟨7⟩), .desk (.lock 1), .desk (.look 1),
          .desk (.claim 1), .desk (.record 1 .epoch), .desk (.release 1), .desk (.drop 1),
          .desk (.sweep 1), .courierCall 1 m, .courierCall 1 m, .deliverReport 2 0]
        ++ List.replicate 6 (.orderCall 2 m)
    (run events).orders.state.store.findOrder ⟨7⟩
      = .ok ⟨⟨7⟩, some ⟨1⟩, "+4912345", .accepted, .epoch⟩ := by
  decide +kernel

end System

end CourierDispatch
