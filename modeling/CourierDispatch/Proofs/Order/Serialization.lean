import CourierDispatch.Proofs.Order.Ranks
import Mathlib.Data.List.Permutation

/-!
# Reports as if one after another

Reports about one order are taken in side by side, and every call works. The record
is guarded by a token, and the order is not: it is written back whole, over whatever
is there. The question is whether there is an order in which the reports could have
been taken in one after another (`Explains`), with the same order in the end and the
same answers on who has accepted it.

There is, if no order is written over one that has changed since it was read: the
reports come as they are ranked. Otherwise there may be none. A report that approves
without naming a courier writes back the courier that it has read, so that one
stored in between is lost, and both reports take themselves for the one that has
accepted the order (`not_serializable_lostCourier`). Only the status can always be
explained, as all that is ever written is acceptance.
-/

namespace CourierDispatch.OrderService

variable {τ : Type} [DecidableEq τ]

namespace Course

variable {report : τ → Report} {store : OrderStore} {id : Uuid} {o₀ : Order}
  {events : List (Event τ)} {t : τ}

/-- Every call of a step works. -/
def Event.Works : Event τ → Prop
  | .begin _ => True
  | .call _ w => w.Works

/-- **All of the work that has begun has ended.** -/
def Ended (c : Course τ) : Prop := ∀ t, c.due? t = none

theorem steady_run (hkeyed : store.Keyed) (ho₀ : store.orders.get? id = some o₀)
    (hid : ∀ t, (report t).orderId = id) (hworks : ∀ e ∈ events, e.Works) :
    Steady id o₀ (run report store events).state := by
  induction events using List.reverseRecOn with
  | nil => exact ⟨⟨o₀, ho₀, .inl rfl⟩, fun _ _ h => by cases h⟩
  | append_singleton es e ih =>
    have ih := ih fun e' he' => hworks e' (List.mem_append_left _ he')
    rcases state_run_concat report store es e with hstate | ⟨t, w, k, next, rfl, hwork, hstate⟩
    · rw [hstate]
      exact ih
    · rw [hstate]
      exact ih.add (hid t) (Report.way_of_trail ((logged_run _ _ _).trail hwork))
        ((upheld_run report hkeyed es).shown t) (hworks (.call t w) (by simp))

theorem ranked_run (hkeyed : store.Keyed) (ho₀ : store.orders.get? id = some o₀)
    (hid : ∀ t, (report t).orderId = id) (hworks : ∀ e ∈ events, e.Works)
    (hundisturbed : Undisturbed (run report store events).state) :
    Ranked report id o₀ (run report store events).state := by
  induction events using List.reverseRecOn with
  | nil => exact ⟨⟨o₀, ho₀, .nil⟩, fun _ h => by cases h⟩
  | append_singleton es e ih =>
    have ih := ih fun e' he' => hworks e' (List.mem_append_left _ he')
    rcases state_run_concat report store es e with hstate | ⟨t, w, k, next, rfl, hwork, hstate⟩
    · rw [hstate] at hundisturbed ⊢
      exact ih hundisturbed
    · rw [hstate] at hundisturbed ⊢
      exact (ih hundisturbed.of_add).add (hid t)
        (Report.way_of_trail ((logged_run _ _ _).trail hwork))
        ((upheld_run report hkeyed es).shown t) (hworks (.call t w) (by simp)) hundisturbed

/-- Work that has made a call has a result in the end. -/
theorem exists_result (hended : (run report store events).Ended)
    (hlog : (run report store events).state.log t ≠ []) :
    ∃ result, (run report store events).result? t = some result
      ∧ (report t).Way ((run report store events).state.log t) (.done result) := by
  have hlogged := logged_run report store events
  cases hwork : (run report store events).works.get? t with
  | none => exact absurd (hlogged.idle hwork) hlog
  | some s =>
    have hway := Report.way_of_trail (hlogged.trail hwork)
    cases s with
    | done result =>
      refine ⟨result, ?_, hway⟩
      unfold result?
      rw [hwork]
    | call k next =>
      have hdue := hended t
      unfold Workshop.due? at hdue
      rw [hwork] at hdue
      cases hdue

/-- Work on a report that was taken in ends well, if no call fails. -/
theorem ok_of_taken (hended : (run report store events).Ended)
    (hsteady : Steady id o₀ (run report store events).state)
    (ht : t ∈ taken report (run report store events).state) :
    ∃ out, (run report store events).result? t = some (.ok out) := by
  rw [mem_taken_iff] at ht
  have hlog : (run report store events).state.log t ≠ [] := by
    intro hnil
    rw [hnil] at ht
    exact absurd ht (Nat.lt_irrefl 0)
  obtain ⟨result, hresult, hway⟩ := exists_result hended hlog
  cases result with
  | ok out => exact ⟨out, hresult⟩
  | error e =>
    have hunfailing := hsteady.unfailing t
    rcases hway.before_or_past with hbefore | ⟨_, _, _, -, heq⟩ | ⟨-, -, o, v, l₁, l₂, hl, htrail⟩
    · rw [hbefore.takings] at ht
      exact absurd ht (Nat.lt_irrefl 0)
    · cases heq
    · rw [hl] at hunfailing
      rcases (trail_settle htrail).2.2 e rfl with ⟨o', ho'⟩ | ⟨o', event, ho'⟩
      · exact absurd (hunfailing _ (List.mem_append_right _ ho')) (by simp [Call.fails])
      · exact absurd (hunfailing _ (List.mem_append_right _ ho')) (by simp [Call.fails])

/-- An order is accepted once an approval of it has been taken in. -/
theorem accepted_of_ok (hkeyed : store.Keyed) {out : Outcome}
    (hresult : (run report store events).result? t = some (.ok out))
    (happroves : (report t).approves = true) :
    (run report store events).state.state.store.Accepted (report t).orderId :=
  (Report.way_of_trail ((logged_run _ _ _).trail (works_of_result? hresult))).accepted
    ((upheld_run report hkeyed events).shown t) happroves

/-- **The reports that were taken in without a failure**, in some order. -/
structure Listed (c : Course τ) (ts : List τ) : Prop where
  /-- Each is listed once. -/
  nodup : ts.Nodup
  /-- They are listed if the work on them has ended well. -/
  mem_iff : ∀ t, t ∈ ts ↔ ∃ out, c.result? t = some (.ok out)

/-- **An order of the reports explains a course**: taken in one after another in that
order, from the same store, they lead to the same order and to the same answers on
who has accepted it. -/
structure Explains (report : τ → Report) (store : OrderStore) (id : Uuid) (c : Course τ)
    (ts : List τ) : Prop where
  /-- It lists the reports that were taken in without a failure. -/
  listed : c.Listed ts
  /-- The order is the same in the end. -/
  order : ∀ world : τ → World, (∀ t, (world t).Works) →
    (inTurn report world ts { store }).2.store.orders.get? id = c.state.state.store.orders.get? id
  /-- The answers on who has accepted it are the same. -/
  accepted : ∀ world : τ → World, (∀ t, (world t).Works) →
    (inTurn report world ts { store }).1.map accepted?
      = ts.map fun t => (c.result? t).bind accepted?

/-- Where the work that has been ranked has come, if no call fails. -/
theorem rank_of_ended (hkeyed : store.Keyed) (hended : (run report store events).Ended)
    (ht : t ∈ ranked report (run report store events).state) :
    ∃ result, (run report store events).result? t = some result
      ∧ (report t).Rank ((run report store events).state.log t) (.done result) := by
  rw [mem_ranked_iff] at ht
  have hlog : (run report store events).state.log t ≠ [] := by
    intro hnil
    rw [hnil] at ht
    exact absurd ht (Nat.lt_irrefl 0)
  obtain ⟨result, hresult, hway⟩ := exists_result hended hlog
  exact ⟨result, hresult, hway.rank ((upheld_run report hkeyed events).shown t)⟩

/-- Work that ends well has been ranked, by the order that it has found. -/
theorem ranked_of_ok (hkeyed : store.Keyed) {out : Outcome}
    (hresult : (run report store events).result? t = some (.ok out)) :
    t ∈ ranked report (run report store events).state
      ∧ ∃ o, foundBy (run report store events).state t = some o
        ∧ out.accepted = (report t).accepts o := by
  rw [mem_ranked_iff]
  have hway := Report.way_of_trail ((logged_run _ _ _).trail (works_of_result? hresult))
  cases hway.rank ((upheld_run report hkeyed events).shown t) with
  | searching _ _ hend => exact absurd rfl (hend out)
  | @reading o hfound hrankings hend =>
    obtain ⟨hleaves, haccepts⟩ := hend out rfl
    rw [hrankings, if_pos hleaves]
    exact ⟨Nat.one_pos, o, hfound, haccepts⟩
  | @written o hfound _ hrankings hend _ =>
    rw [hrankings]
    exact ⟨Nat.one_pos, o, hfound, hend out rfl⟩

theorem nodup_ranked (hkeyed : store.Keyed) :
    (ranked report (run report store events).state).Nodup := by
  rw [List.nodup_iff_count_le_one]
  intro t
  obtain ⟨s, hway, -⟩ := exists_way report store events t
  rw [count_ranked]
  cases hway.rank ((upheld_run report hkeyed events).shown t) with
  | searching _ hrankings _ =>
    rw [hrankings]
    exact Nat.zero_le 1
  | reading _ hrankings _ =>
    rw [hrankings]
    split
    · exact Nat.le_refl 1
    · exact Nat.zero_le 1
  | written _ _ hrankings _ _ => exact Nat.le_of_eq hrankings

/-- The work on a report has ended well. -/
def endedWell (c : Course τ) (t : τ) : Bool := ((c.result? t).bind accepted?).isSome

theorem endedWell_iff {c : Course τ} : endedWell c t = true ↔ ∃ out, c.result? t = some (.ok out) := by
  unfold endedWell
  cases c.result? t with
  | none => simp
  | some result => cases result <;> simp [accepted?]

/-- Work that was ranked and has not ended well leaves the order as it finds it. -/
theorem leaves_of_not_endedWell (hkeyed : store.Keyed) (hended : (run report store events).Ended)
    (hsteady : Steady id o₀ (run report store events).state)
    (ht : t ∈ ranked report (run report store events).state)
    (hnot : endedWell (run report store events) t = false) {o : Order}
    (ho : foundBy (run report store events).state t = some o) : (report t).leaves o = o := by
  obtain ⟨result, hresult, hrank⟩ := rank_of_ended hkeyed hended ht
  rw [mem_ranked_iff] at ht
  cases hrank with
  | searching _ hrankings _ =>
    rw [hrankings] at ht
    exact absurd ht (Nat.lt_irrefl 0)
  | @reading o' hfound hrankings _ =>
    obtain rfl := Option.some.inj (hfound.symm.trans ho)
    by_contra hnew
    rw [hrankings, if_neg hnew] at ht
    exact absurd ht (Nat.lt_irrefl 0)
  | written _ _ _ _ hfails =>
    cases result with
    | ok out =>
      rw [endedWell_iff.2 ⟨out, hresult⟩] at hnot
      cases hnot
    | error e =>
      obtain ⟨n, hn, hfailed⟩ := hfails e rfl
      rw [hsteady.unfailing t n hn] at hfailed
      cases hfailed

/-- **The status can always be explained**, by any order of the reports. -/
theorem status_inTurn (hkeyed : store.Keyed) (ho₀ : store.orders.get? id = some o₀)
    (hid : ∀ t, (report t).orderId = id) (hworks : ∀ e ∈ events, e.Works)
    (hended : (run report store events).Ended) {ts : List τ}
    (hts : (run report store events).Listed ts) {world : τ → World}
    (hworld : ∀ t, (world t).Works) :
    ((inTurn report world ts { store }).2.store.orders.get? id).map (·.status)
      = ((run report store events).state.state.store.orders.get? id).map (·.status) := by
  have hsteady := steady_run hkeyed ho₀ hid hworks
  obtain ⟨o, ho, hstatus⟩ := hsteady.status
  rw [order_inTurn (s := { store }) hworld hid hkeyed ho₀ ts, ho, Option.map_some,
    Option.map_some, status_foldl_leaves]
  refine congrArg some ?_
  cases hany : ts.any fun t => (report t).approves with
  | true =>
    obtain ⟨t, ht, happroves⟩ := List.any_eq_true.1 hany
    obtain ⟨out, hout⟩ := (hts.mem_iff t).1 ht
    obtain ⟨o', ho', haccepted⟩ := accepted_of_ok hkeyed hout happroves
    obtain rfl := Option.some.inj (ho.symm.trans (hid t ▸ ho'))
    exact haccepted.symm
  | false =>
    rcases hstatus with hstatus | haccepted
    · exact hstatus.symm
    · -- the order was accepted before, as no approval has been taken in
      rcases (upheld_run report hkeyed events).approved id ⟨o, ho, haccepted⟩ with
        ⟨o', ho', haccepted'⟩ | ⟨t, ht, -, hcourier, hfact⟩
      · obtain rfl := Option.some.inj (ho₀.symm.trans ho')
        exact haccepted'.trans haccepted.symm
      · have happroves : (report t).approves = true := by
          unfold Report.approves
          rw [hcourier, hfact]
          rfl
        rw [List.any_eq_false] at hany
        exact absurd happroves (hany t ((hts.mem_iff t).2 (ok_of_taken hended hsteady ht)))

/-- **The reports come one after another as they are ranked**, if no order is written
over one that has changed since it was read. -/
theorem exists_successive (hkeyed : store.Keyed) (ho₀ : store.orders.get? id = some o₀)
    (hid : ∀ t, (report t).orderId = id) (hworks : ∀ e ∈ events, e.Works)
    (hended : (run report store events).Ended)
    (hundisturbed : Undisturbed (run report store events).state) :
    ∃ ts o, (run report store events).Listed ts
      ∧ (run report store events).state.state.store.orders.get? id = some o
      ∧ Successive report (foundBy (run report store events).state) o₀ ts o := by
  have hsteady := steady_run hkeyed ho₀ hid hworks
  obtain ⟨o, ho, hsuccessive⟩ := (ranked_run hkeyed ho₀ hid hworks hundisturbed).order
  refine ⟨_, o, ⟨(nodup_ranked hkeyed).filter _, fun t => ?_⟩, ho,
    hsuccessive.filter (p := endedWell (run report store events)) fun t ht hnot o ho =>
      leaves_of_not_endedWell hkeyed hended hsteady ht hnot ho⟩
  rw [List.mem_filter, endedWell_iff]
  exact and_iff_right_of_imp fun ⟨out, hout⟩ => (ranked_of_ok hkeyed hout).1

/-- **Reports about one order are serializable, as far as they do not write over one
another.** Let every call work. Then the order ends with the status that it has after
the reports that were taken in without a failure, one after another in any order. If
moreover no order is written over one that has changed since it was read, one of these
orders explains what has come of the reports; one report at most has accepted the
order, and a courier that was assigned has not disappeared. -/
theorem reports_serializable (report : τ → Report) (hkeyed : store.Keyed)
    (ho₀ : store.orders.get? id = some o₀) (hid : ∀ t, (report t).orderId = id)
    (hworks : ∀ e ∈ events, e.Works) (hended : (run report store events).Ended) :
    (∀ ts, (run report store events).Listed ts → ∀ world : τ → World, (∀ t, (world t).Works) →
        ((inTurn report world ts { store }).2.store.orders.get? id).map (·.status)
          = ((run report store events).state.state.store.orders.get? id).map (·.status))
      ∧ (Undisturbed (run report store events).state →
        (∃ ts, Explains report store id (run report store events) ts)
          ∧ (∀ t t' out out', (run report store events).result? t = some (.ok out) →
            (run report store events).result? t' = some (.ok out') →
            out.accepted = true → out'.accepted = true → t = t')
          ∧ ∀ m ∈ (run report store events).made, ∀ o,
            m.before.store.orders.get? id = some o → o.courierId.isSome = true →
            ∃ o', m.after.store.orders.get? id = some o' ∧ o'.courierId.isSome = true) := by
  refine ⟨fun ts hts world hworld => status_inTurn hkeyed ho₀ hid hworks hended hts hworld,
    fun hundisturbed => ?_⟩
  obtain ⟨ts, o, hlisted, ho, hsuccessive⟩ :=
    exists_successive hkeyed ho₀ hid hworks hended hundisturbed
  refine ⟨⟨ts, hlisted, fun world hworld => ?_, fun world hworld => ?_⟩, ?_,
    (ranked_run hkeyed ho₀ hid hworks hundisturbed).assigned⟩
  · rw [order_inTurn (s := { store }) hworld hid hkeyed ho₀ ts, ho, hsuccessive.eq_foldl]
  · rw [hsuccessive.accepted_inTurn (s := { store }) hworld hid hkeyed ho₀]
    refine List.map_congr_left fun t ht => ?_
    obtain ⟨out, hout⟩ := (hlisted.mem_iff t).1 ht
    obtain ⟨-, o', ho', haccepts⟩ := ranked_of_ok hkeyed hout
    rw [ho', hout]
    exact congrArg some haccepts.symm
  · intro t t' out out' hout hout' haccepted haccepted'
    obtain ⟨-, o₁, ho₁, h₁⟩ := ranked_of_ok hkeyed hout
    obtain ⟨-, o₂, ho₂, h₂⟩ := ranked_of_ok hkeyed hout'
    exact hsuccessive.accepts_unique ((hlisted.mem_iff t).2 ⟨out, hout⟩)
      ((hlisted.mem_iff t').2 ⟨out', hout'⟩) ho₁ ho₂ (h₁ ▸ haccepted) (h₂ ▸ haccepted')

/-- Two approvals that name couriers, the second of which reads the order when the
first has written it, and before that has announced it. -/
theorem reports_serializable_interleaved :
    let report : Bool → Report := fun t =>
      ⟨Topic.courierService, ⟨7⟩, ⟨true, some (if t then ⟨1⟩ else ⟨2⟩), none⟩⟩
    let o₀ := Order.create ⟨7⟩ "+4912345" .epoch
    let events : List (Event Bool) := [.begin true, .begin false]
      ++ List.replicate 5 (.call true calm) ++ [.call false calm, .call true calm]
      ++ List.replicate 4 (.call false calm)
    let c := run report (stocked [o₀]) events
    (stocked [o₀]).Keyed ∧ (stocked [o₀]).orders.get? ⟨7⟩ = some o₀
      ∧ (∀ t, (report t).orderId = ⟨7⟩) ∧ (∀ e ∈ events, e.Works) ∧ c.Ended
      ∧ Undisturbed c.state ∧ (c.result? true).bind accepted? = some true
      ∧ (c.result? false).bind accepted? = some false
      ∧ ∃ ts, Explains report (stocked [o₀]) ⟨7⟩ c ts := by
  intro report o₀ events c
  have hkeyed : (stocked [o₀]).Keyed := (stocked_records _).1
  have ho₀ : (stocked [o₀]).orders.get? ⟨7⟩ = some o₀ := rfl
  have hid : ∀ t, (report t).orderId = ⟨7⟩ := fun _ => rfl
  have hworks : ∀ e ∈ events, e.Works := by
    simp [events, Event.Works, World.Works, calm]
  have hended : c.Ended := by
    intro t
    refine Option.isNone_iff_eq_none.1 ?_
    cases t with
    | true => decide +kernel
    | false => decide +kernel
  have hundisturbed : Undisturbed c.state := by decide +kernel
  have hserializable := reports_serializable report hkeyed ho₀ hid hworks hended
  exact ⟨hkeyed, ho₀, hid, hworks, hended, hundisturbed, by decide +kernel, by decide +kernel,
    (hserializable.2 hundisturbed).1⟩

/-- **Reports that write over one another need not be serializable.** An approval
without a courier reads the pending order; another one, with a courier, is taken in;
the first goes on with the order that it has read. Both have accepted the order, the
courier is lost, and no order of the two leads to this. -/
theorem not_serializable_lostCourier :
    let report : Bool → Report := fun t =>
      ⟨Topic.courierService, ⟨7⟩, ⟨true, if t then some ⟨1⟩ else none, none⟩⟩
    let o₀ := Order.create ⟨7⟩ "+4912345" .epoch
    let events : List (Event Bool) := [.begin true, .begin false, .call false calm]
      ++ List.replicate 6 (.call true calm) ++ List.replicate 4 (.call false calm)
    let c := run report (stocked [o₀]) events
    (stocked [o₀]).orders.get? ⟨7⟩ = some o₀ ∧ (∀ t, (report t).orderId = ⟨7⟩)
      ∧ (∀ e ∈ events, e.Works) ∧ c.Ended
      ∧ (c.result? true).bind accepted? = some true
      ∧ (c.result? false).bind accepted? = some true
      ∧ (∃ m ∈ c.made, ((m.before.store.orders.get? ⟨7⟩).bind (·.courierId)).isSome = true
        ∧ (m.after.store.orders.get? ⟨7⟩).map (·.courierId) = some none)
      ∧ ¬ ∃ ts, Explains report (stocked [o₀]) ⟨7⟩ c ts := by
  intro report o₀ events c
  have hworks : ∀ e ∈ events, e.Works := by
    simp [events, Event.Works, World.Works, calm]
  have hended : c.Ended := by
    intro t
    refine Option.isNone_iff_eq_none.1 ?_
    cases t with
    | true => decide +kernel
    | false => decide +kernel
  have hflag : ∀ t, (c.result? t).bind accepted? = some true := by
    intro t
    cases t with
    | true => decide +kernel
    | false => decide +kernel
  refine ⟨rfl, fun _ => rfl, hworks, hended, hflag true, hflag false, by decide +kernel, ?_⟩
  rintro ⟨ts, hexplains⟩
  have hperm : ts.Perm [true, false] := by
    rw [List.perm_ext_iff_of_nodup hexplains.listed.nodup (by decide)]
    intro t
    have hwell : endedWell c t = true := by
      unfold endedWell
      rw [hflag t]
      rfl
    rw [hexplains.listed.mem_iff, ← endedWell_iff]
    cases t with
    | true => simpa using hwell
    | false => simpa using hwell
  have hlost : (c.state.state.store.orders.get? ⟨7⟩).map (·.courierId) = some none := by
    decide +kernel
  rw [← hexplains.order (fun _ => calm) fun _ _ => rfl] at hlost
  -- in either order the courier that was named stays
  have hnamed : ∀ ts ∈ [true, false].permutations',
      ((inTurn report (fun _ => calm) ts { store := stocked [o₀] }).2.store.orders.get? ⟨7⟩).map
        (·.courierId) = some (some ⟨1⟩) := by decide +kernel
  rw [hnamed ts (List.mem_permutations'.2 hperm)] at hlost
  cases hlost

end Course

end CourierDispatch.OrderService
