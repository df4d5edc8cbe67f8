import CourierDispatch.Proofs.Courier.Assignment

/-!
# Runs at the desk

What the steps of `Proofs.Courier.Assignment` keep, runs keep. A desk is
opened with some couriers; calls are made for any orders, any number of
times each, and couriers come, under identifiers of their own. However the
steps of the calls fall between one another, couriers are given to one order
each and none is lost (`assignment_safety`).

A call that nothing comes between does what `CourierStore.assign` does
(`run_wholeCall`), so the desk is the store's own operation, taken apart.
-/

namespace CourierDispatch.AssignmentDesk

variable {τ : Type} [DecidableEq τ]

/-! ## The invariant along a run -/

omit [DecidableEq τ] in
theorem inserted_append (es₁ es₂ : List (Event τ)) :
    inserted (es₁ ++ es₂) = inserted es₁ ++ inserted es₂ :=
  List.filterMap_append

omit [DecidableEq τ] in
theorem inserted_singleton (e : Event τ) : inserted [e] = e.courier?.toList := by
  unfold inserted
  cases h : e.courier? <;> simp [h]

/-- **Along a run the desk is sound and its balance is right**, if no two
couriers have one identifier. -/
theorem sound_run {couriers : List Courier} (events : List (Event τ))
    (hfresh : ((couriers ++ inserted events).map (·.id)).Nodup) :
    let d := (opened couriers : AssignmentDesk τ).run events
    d.Sound ∧ d.store.couriers.map (·.id) = (couriers ++ inserted events).map (·.id) ∧
      d.balance = (couriers ++ inserted events).countP (·.isAvailable) := by
  revert hfresh
  refine run_induction (P := fun es d => ((couriers ++ inserted es).map (·.id)).Nodup →
    d.Sound ∧ d.store.couriers.map (·.id) = (couriers ++ inserted es).map (·.id) ∧
      d.balance = (couriers ++ inserted es).countP (·.isAvailable)) ?_ ?_ ?_ events
  · intro h
    rw [inserted, List.filterMap_nil, List.append_nil] at h ⊢
    refine ⟨sound_opened h, rfl, ?_⟩
    simp [balance, opened, claimedCount, CourierStore.availableCount, Table.size, Table.values,
      Table.empty]
  · intro pre e d' ih hs hfresh
    rw [inserted_append, inserted_singleton, ← List.append_assoc] at hfresh ⊢
    generalize couriers ++ inserted pre = all at ih hfresh ⊢
    rw [List.map_append] at hfresh ⊢
    obtain ⟨hsound, hids, hbal⟩ := ih (List.nodup_append.1 hfresh).1
    refine ⟨hsound.step ?_ hs, by rw [map_id_step hs, hids], ?_⟩
    · intro x hx hmem
      rw [hids] at hmem
      rw [hx, Option.toList_some, List.nodup_append] at hfresh
      exact hfresh.2.2 x.id hmem x.id (by simp) rfl
    · rw [hsound.balance_step hs, hbal, List.countP_append]
  · intro pre e ih he hfresh
    rw [inserted_append, inserted_singleton, he, Option.toList_none, List.append_nil] at hfresh ⊢
    exact ih hfresh

omit [DecidableEq τ] in
/-- A run up to a moment is a run without couriers of one identifier. -/
theorem nodup_of_append {couriers : List Courier} {es₁ es₂ : List (Event τ)}
    (h : ((couriers ++ inserted (es₁ ++ es₂)).map (·.id)).Nodup) :
    ((couriers ++ inserted es₁).map (·.id)).Nodup := by
  rw [inserted_append, ← List.append_assoc] at h
  exact h.sublist (List.Sublist.map _ (List.sublist_append_left _ _))

/-- **Assignments stay** for the rest of a run. -/
theorem findAssignment_run {couriers : List Courier} {pre post : List (Event τ)}
    (hfresh : ((couriers ++ inserted (pre ++ post)).map (·.id)).Nodup) {o : Uuid} {a : Assignment}
    (ha : ((opened couriers : AssignmentDesk τ).run pre).store.findAssignment o = some a) :
    ((opened couriers : AssignmentDesk τ).run (pre ++ post)).store.findAssignment o = some a := by
  rw [run_append]
  revert hfresh
  refine run_induction (P := fun es d =>
    ((couriers ++ inserted (pre ++ es)).map (·.id)).Nodup → d.store.findAssignment o = some a)
    (fun _ => ha) ?_ ?_ post
  · intro es e d' ih hs hfresh
    rw [← List.append_assoc] at hfresh
    have hpre := nodup_of_append hfresh
    have hsound := (sound_run _ hpre).1
    rw [run_append] at hsound
    exact hsound.findAssignment_step hs (ih hpre)
  · intro es e ih _ hfresh
    rw [← List.append_assoc] at hfresh
    exact ih (nodup_of_append hfresh)

/-- **A committed call stays committed** for the rest of a run. -/
theorem Committed.run {d : AssignmentDesk τ} {t : τ} (h : d.Committed t) (events : List (Event τ)) :
    (d.run events).Committed t :=
  run_induction (P := fun _ d => d.Committed t) h (fun _ _ _ ih hs => ih.step hs)
    (fun _ _ ih _ => ih) events

/-- **A call that is refused has changed nothing**: none of its steps wrote to
the store. -/
theorem store_eq_of_refused {d : AssignmentDesk τ} {pre post : List (Event τ)} {e : Event τ} {t : τ}
    (ht : e.task? = some t) {c : AssignCall} {err : ServiceError}
    (hc : (d.run (pre ++ e :: post)).calls.get? t = some c)
    (hr : c.result? = some (.error err)) :
    (d.run (pre ++ [e])).store = (d.run pre).store := by
  have hnot : ¬ (d.run (pre ++ e :: post)).Committed t := by
    rintro ⟨c', hc', hcom⟩
    obtain rfl := Option.some.inj (hc.symm.trans hc')
    rcases hcom with hcl | ⟨a, ha⟩
    · unfold AssignCall.claimed? at hcl
      unfold AssignCall.result? at hr
      split at hcl <;> simp_all
    · rw [hr] at ha
      cases ha
  have hrun : d.run (pre ++ [e]) = ((d.run pre).step? e).getD (d.run pre) := run_append _ _ _
  cases hs : (d.run pre).step? e with
  | none => rw [hrun, hs]; rfl
  | some d' =>
    have hd' : d.run (pre ++ [e]) = d' := by rw [hrun, hs]; rfl
    rw [hd']
    refine (store_eq_or_committed (step_of_step? hs) ht).resolve_right fun hcom => hnot ?_
    rw [List.append_cons, run_append, hd']
    exact hcom.run post

/-- A courier that is taken is found under its identifier, and is not
available. -/
theorem findCourier_of_taken {s : CourierStore} (hnodup : (s.couriers.map (·.id)).Nodup) {c : Uuid}
    (h : Taken s.couriers c) : ∃ x, s.findCourier c = .ok x ∧ x.isAvailable = false := by
  obtain ⟨x, hx, hid, hav⟩ := h
  refine ⟨x, ?_, hav⟩
  have hfind : s.couriers.find? (fun y => y.id = c) = some x := by
    cases hf : s.couriers.find? (fun y => y.id = c) with
    | none => exact absurd (List.find?_eq_none.1 hf x hx) (by simp [hid])
    | some y =>
      have hy : y.id = c := by simpa using List.find?_some hf
      rw [List.inj_on_of_nodup_map hnodup (List.mem_of_find?_eq_some hf) hx (hy.trans hid.symm)]
  rw [CourierStore.findCourier, hfind]

/-! ## The main statement -/

/-- **Couriers are given to one order each, and none is lost.** Let a desk be
opened with couriers, and let any steps follow, with couriers coming under
identifiers of their own. Then assigned couriers differ from order to order
and are stored as unavailable; every courier that was available when it came
is available, assigned, or claimed by a call that is about to record it; an
assignment never changes; a call that returns an assignment returns that of
its order; and no step of a call that is refused has touched the store. -/
theorem assignment_safety (couriers : List Courier) (events : List (Event τ))
    (hfresh : ((couriers ++ inserted events).map (·.id)).Nodup) :
    let start : AssignmentDesk τ := opened couriers
    let d := start.run events
    (∀ o o' a a', d.store.findAssignment o = some a → d.store.findAssignment o' = some a' →
        a.courierId = a'.courierId → o = o')
      ∧ (∀ o a, d.store.findAssignment o = some a →
          ∃ x, d.store.findCourier a.courierId = .ok x ∧ x.isAvailable = false)
      ∧ d.store.availableCount + d.store.assignments.size + d.claimedCount
          = (couriers ++ inserted events).countP (·.isAvailable)
      ∧ (∀ pre post, events = pre ++ post → ∀ o a,
          (start.run pre).store.findAssignment o = some a → d.store.findAssignment o = some a)
      ∧ (∀ t c a, d.calls.get? t = some c → c.result? = some (.ok a) →
          d.store.findAssignment c.orderId = some a)
      ∧ ∀ t c o, d.calls.get? t = some c → c.result? = some (.error (.noCourierAvailable o)) →
          ∀ pre e post, events = pre ++ e :: post → e.task? = some t →
            (start.run (pre ++ [e])).store = (start.run pre).store := by
  intro start d
  obtain ⟨hsound, -, hbal⟩ := sound_run events hfresh
  refine ⟨?_, ?_, hbal, ?_, ?_, ?_⟩
  · intro o o' a a' ha ha' heq
    exact hsound.apart (.inl ⟨a, ha, heq⟩) (.inl ⟨a', ha', rfl⟩)
  · intro o a ha
    exact findCourier_of_taken hsound.nodup (hsound.taken (.inl ⟨a, ha, rfl⟩))
  · rintro pre post rfl o a ha
    exact findAssignment_run hfresh ha
  · intro t c a hc hr
    have hpromise := hsound.promised hc
    unfold AssignCall.result? at hr
    split at hr
    · next hstage => exact (hstage ▸ hpromise : Promise _ _ _ _ (.leaving _)) a (Option.some.inj hr)
    · next hstage => exact (hstage ▸ hpromise : Promise _ _ _ _ (.returned _)) a (Option.some.inj hr)
    · cases hr
  · rintro t c o hc hr pre e post rfl ht
    exact store_eq_of_refused ht hc hr

/-- Two couriers, one of them free. -/
def oneFree : List Courier := [⟨⟨1⟩, "first", true⟩, ⟨⟨2⟩, "second", false⟩]

/-- Two calls for one order and one for another; a courier who comes too late
for the other. -/
def threeCalls : List (Event Nat) :=
  [.call 0 ⟨7⟩, .call 1 ⟨7⟩, .call 2 ⟨8⟩, .lock 0, .lock 2, .look 2, .look 0, .claim 0, .claim 2,
    .insert ⟨⟨3⟩, "third", true⟩, .record 0 .epoch, .release 0, .lock 1, .look 1]

theorem assignment_safety_threeCalls :
    ((oneFree ++ inserted threeCalls).map (·.id)).Nodup
      ∧ ((opened oneFree).run threeCalls).store.findAssignment ⟨7⟩ = some ⟨⟨7⟩, ⟨1⟩, .epoch⟩
      ∧ (∃ x, ((opened oneFree).run threeCalls).store.findCourier ⟨1⟩ = .ok x
          ∧ x.isAvailable = false)
      ∧ ((opened oneFree).run (threeCalls.take 8)).store
        = ((opened oneFree).run (threeCalls.take 9)).store := by
  have hfresh : ((oneFree ++ inserted threeCalls).map (·.id)).Nodup := by decide
  have hfound : ((opened oneFree).run threeCalls).store.findAssignment ⟨7⟩
      = some ⟨⟨7⟩, ⟨1⟩, .epoch⟩ := by decide
  obtain ⟨-, htaken, -, -, -, hrefused⟩ := assignment_safety oneFree threeCalls hfresh
  refine ⟨hfresh, hfound, htaken _ _ hfound, ?_⟩
  exact (hrefused 2 ⟨⟨8⟩, .leaving (.error (.noCourierAvailable ⟨8⟩))⟩ ⟨8⟩ rfl rfl
    (threeCalls.take 8) (.claim 2) (threeCalls.drop 9) rfl rfl).symm

/-! ## One call alone -/

/-- A step that can be taken is. -/
theorem run_cons {d d' : AssignmentDesk τ} {e : Event τ} (h : d.step? e = some d')
    (es : List (Event τ)) : d.run (e :: es) = d'.run es := by
  show (d.step? e |>.getD d).run es = d'.run es
  rw [h, Option.getD_some]

/-- A step that cannot be taken is passed over. -/
theorem run_cons_of_none {d : AssignmentDesk τ} {e : Event τ} (h : d.step? e = none)
    (es : List (Event τ)) : d.run (e :: es) = d.run es := by
  show (d.step? e |>.getD d).run es = d.run es
  rw [h, Option.getD_none]

/-- What a call does at its stage, as a step of the desk. -/
theorem step?_eq_advance {d : AssignmentDesk τ} {e : Event τ} {t : τ} {c : AssignCall}
    (ht : e.task? = some t) (hno : ∀ o, e ≠ .call t o) (hc : d.calls.get? t = some c) :
    d.step? e = d.advance e t c := by
  cases e with
  | insert x => cases ht
  | call t' o =>
    obtain rfl := Option.some.inj ht
    exact absurd rfl (hno o)
  | _ =>
    obtain rfl := Option.some.inj ht
    simp [step?, Event.task?, hc]

/-- A call that knows its result and holds its lock returns in three
steps. -/
theorem run_leave {d : AssignmentDesk τ} {t : τ} {o : Uuid} {r : Except ServiceError Assignment}
    (hc : d.calls.get? t = some ⟨o, .leaving r⟩) (hl : d.locks.Holds t o) :
    (d.run [.release t, .drop t, .sweep t]).store = d.store
      ∧ (d.run [.release t, .drop t, .sweep t]).calls.get? t = some ⟨o, .returned r⟩ := by
  obtain ⟨m, hm⟩ := hl
  have hrelease : d.step? (.release t)
      = some { d with locks := d.locks.moveTo .released t ⟨o, m, .holding⟩ } := by
    rw [step?_eq_advance rfl (fun _ => by simp) hc]
    simp [advance, lockStep, KeyedLock.step?, hm]
  rw [run_cons hrelease]
  generalize hd₁ : ({ d with locks := _ } : AssignmentDesk τ) = d₁
  have hc₁ : d₁.calls.get? t = some ⟨o, .leaving r⟩ := by rw [← hd₁]; exact hc
  have hm₁ : d₁.locks.visits.get? t = some ⟨o, m, .released⟩ := by
    rw [← hd₁]; simp [KeyedLock.moveTo]
  have hdrop : d₁.step? (.drop t)
      = some { d₁ with locks := d₁.locks.moveTo .dropped t ⟨o, m, .released⟩ } := by
    rw [step?_eq_advance rfl (fun _ => by simp) hc₁]
    simp [advance, lockStep, KeyedLock.step?, hm₁]
  rw [run_cons hdrop]
  generalize hd₂ : ({ d₁ with locks := _ } : AssignmentDesk τ) = d₂
  have hc₂ : d₂.calls.get? t = some ⟨o, .leaving r⟩ := by rw [← hd₂]; exact hc₁
  have hm₂ : d₂.locks.visits.get? t = some ⟨o, m, .dropped⟩ := by
    rw [← hd₂]; simp [KeyedLock.moveTo]
  have hsweep : d₂.step? (.sweep t) = some
      (moveTo (.returned r) t ⟨o, .leaving r⟩
        { d₂ with locks := (d₂.locks.forget t).sweepKey o }) := by
    rw [step?_eq_advance rfl (fun _ => by simp) hc₂]
    simp [advance, lockStep, KeyedLock.step?, hm₂]
  rw [run_cons hsweep]
  refine ⟨?_, Table.get?_put_self _ _ _⟩
  show d₂.store = d.store
  rw [← hd₂, ← hd₁]

/-- A call that is made while nobody holds the lock of its order has the lock
two steps later. -/
theorem run_enter {d : AssignmentDesk τ} (h : d.Sound) {t : τ} {o : Uuid}
    (hnew : d.calls.get? t = none) (hout : d.locks.visits.get? t = none)
    (hfree : ∀ t', ¬ d.locks.Holds t' o) :
    ∃ locks : KeyedLock Uuid τ, locks.Holds t o ∧ d.run [.call t o, .lock t]
      = { d with
          locks
          calls := (d.calls.put t ⟨o, .locking⟩).put t ⟨o, .looking⟩ } := by
  have hask : d.locks.step? (.ask t o) = some (d.locks.ask t o) := by
    simp [KeyedLock.step?, Table.contains, hout]
  obtain ⟨m, hm⟩ := KeyedLock.waiting_of_ask hask
  have hsound := h.locks.step hask
  -- whoever holds the mutex holds it for this order, which nobody does
  have hnot : (d.locks.ask t o).isHeld m = false := by
    rw [KeyedLock.isHeld_eq_false_iff]
    intro t' v hv hvm hstage
    have hkey : v.key = o := by
      have hcur := hsound.current hv (by simp [LockVisit.refers, hstage])
      rw [hvm] at hcur
      exact hsound.apart hcur (hsound.current hm rfl)
    have hne : t' ≠ t := by
      rintro rfl
      rw [hm] at hv
      cases hv
      cases hstage
    rw [KeyedLock.visits_step hask hne] at hv
    exact hfree t' ⟨v.mutex, by rw [hv, ← hkey, ← hstage]⟩
  have hacquire : (d.locks.ask t o).step? (.acquire t)
      = some ((d.locks.ask t o).moveTo .holding t ⟨o, m, .waiting⟩) := by
    simp [KeyedLock.step?, hm, hnot]
  refine ⟨_, KeyedLock.holds_of_acquire hm hacquire, ?_⟩
  have hcall : d.step? (.call t o) = some
      { d with locks := d.locks.ask t o, calls := d.calls.put t ⟨o, .locking⟩ } := by
    simp [step?, Table.contains, hnew, lockStep, hask, moveTo]
  rw [run_cons hcall]
  refine run_cons ?_ []
  rw [step?_eq_advance rfl (fun _ => by simp) (Table.get?_put_self _ _ _)]
  simp [advance, lockStep, hacquire, moveTo]

/-- A call that knows its result passes over the steps that would write. -/
theorem run_past_writing {d : AssignmentDesk τ} {t : τ} {o : Uuid}
    {r : Except ServiceError Assignment} (hc : d.calls.get? t = some ⟨o, .leaving r⟩) (now : Instant)
    (es : List (Event τ)) :
    d.run (.claim t :: .record t now :: es) = d.run es ∧ d.run (.record t now :: es) = d.run es := by
  have hrecord : d.run (.record t now :: es) = d.run es :=
    run_cons_of_none (by rw [step?_eq_advance rfl (fun _ => by simp) hc]; rfl) es
  refine ⟨?_, hrecord⟩
  rw [← hrecord]
  exact run_cons_of_none (by rw [step?_eq_advance rfl (fun _ => by simp) hc]; rfl) _

/-- A call stands at the stage to which it goes on. -/
@[simp]
theorem calls_moveTo (stage : AssignStage) (t : τ) (c : AssignCall) (d : AssignmentDesk τ) :
    (d.moveTo stage t c).calls.get? t = some ⟨c.orderId, stage⟩ :=
  Table.get?_put_self _ _ _

/-- A call that has found no assignment, and from there goes on alone. -/
theorem run_claiming {d : AssignmentDesk τ} {t : τ} {o : Uuid} (now : Instant)
    (hc : d.calls.get? t = some ⟨o, .claiming⟩) (hl : d.locks.Holds t o)
    (ha : d.store.findAssignment o = none) :
    let d' := d.run [.claim t, .record t now, .release t, .drop t, .sweep t]
    d'.store = (d.store.assign now o).2
      ∧ d'.calls.get? t = some ⟨o, .returned (d.store.assign now o).1⟩ := by
  intro d'
  have hclaim : d' = (d.claim t ⟨o, .claiming⟩).run
      [.record t now, .release t, .drop t, .sweep t] :=
    run_cons (step?_eq_advance rfl (fun _ => by simp) hc) _
  rw [hclaim, CourierStore.assign, ha]
  unfold claim
  rcases hx : d.store.claim with ⟨_ | x, s⟩
  · have hs : s = d.store := by
      unfold CourierStore.claim at hx
      split at hx
      · cases hx
      · exact (Prod.mk.inj hx).2.symm
    have hleave := calls_moveTo (.leaving (.error (.noCourierAvailable o))) t ⟨o, .claiming⟩ d
    show (run _ (moveTo _ _ _ d)).store = s ∧ _
    rw [(run_past_writing hleave now _).2, hs]
    exact run_leave hleave hl
  · have hrec := calls_moveTo (.recording x) t ⟨o, .claiming⟩ { d with store := s }
    show (run _ (moveTo _ _ _ _)).store = _ ∧ _
    rw [run_cons (step?_eq_advance rfl (fun _ => by simp) hrec)]
    exact run_leave (calls_moveTo _ _ _ _) hl

/-- A call that has the lock of its order, and from there goes on alone. -/
theorem run_looking {d : AssignmentDesk τ} {t : τ} {o : Uuid} (now : Instant)
    (hc : d.calls.get? t = some ⟨o, .looking⟩) (hl : d.locks.Holds t o) :
    let d' := d.run [.look t, .claim t, .record t now, .release t, .drop t, .sweep t]
    d'.store = (d.store.assign now o).2
      ∧ d'.calls.get? t = some ⟨o, .returned (d.store.assign now o).1⟩ := by
  intro d'
  have hlook : d' = (d.look t ⟨o, .looking⟩).run
      [.claim t, .record t now, .release t, .drop t, .sweep t] :=
    run_cons (step?_eq_advance rfl (fun _ => by simp) hc) _
  rw [hlook]
  unfold look
  cases ha : d.store.findAssignment o with
  | some a =>
    have hleave := calls_moveTo (.leaving (.ok a)) t ⟨o, .looking⟩ d
    show (run _ (moveTo _ _ _ d)).store = _ ∧ _
    rw [(run_past_writing hleave now _).1, CourierStore.assign, ha]
    exact run_leave hleave hl
  | none => exact run_claiming now (calls_moveTo .claiming t ⟨o, .looking⟩ d) hl ha

/-- **A call that nothing comes between does what `CourierStore.assign`
does**, to the store and in its result. -/
theorem run_wholeCall {d : AssignmentDesk τ} (h : d.Sound) {t : τ} {o : Uuid} (now : Instant)
    (hnew : d.calls.get? t = none) (hout : d.locks.visits.get? t = none)
    (hfree : ∀ t', ¬ d.locks.Holds t' o) :
    (d.run (wholeCall t o now)).store = (d.store.assign now o).2
      ∧ (d.run (wholeCall t o now)).calls.get? t
        = some ⟨o, .returned (d.store.assign now o).1⟩ := by
  obtain ⟨locks, hholds, henter⟩ := run_enter h hnew hout hfree
  have hsplit : d.run (wholeCall t o now)
      = (d.run [.call t o, .lock t]).run
        [.look t, .claim t, .record t now, .release t, .drop t, .sweep t] :=
    run_append [.call t o, .lock t] _ d
  rw [hsplit, henter]
  exact run_looking now (Table.get?_put_self _ _ _) hholds

end CourierDispatch.AssignmentDesk
