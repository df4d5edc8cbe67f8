import CourierDispatch.Proofs.Order.InTurn
import CourierDispatch.Proofs.Order.Stability

/-!
# The ranks of reports

Reports about one order are taken in side by side, and every call works. Each of them
takes its rank among the others by one of its calls: by the one that writes the order,
or, if the report leaves the order as it finds it, by the one that reads it
(`Call.ranks`).

The order is read first and written last, whole, over whatever is there by then. If
that is what was read (`Undisturbed`), the call that writes the order makes of it what
the report does, so that each report finds what those ranked before it leave
(`Ranked`).
-/

namespace CourierDispatch.OrderService

/-! ## Calls and the order -/

/-- The order that a call has found. -/
def Call.found? : (k : Call) → Answer k → Option Order
  | .findOrder _, .ok o => some o
  | _, _ => none

/-- **Whether a report takes its rank among the others by a call**: the call writes
the order; or it reads the order, and the report leaves that as it is. -/
def Call.ranks (r : Report) : (k : Call) → Answer k → Bool
  | .findOrder _, .ok o => r.leaves o = o
  | .updateOrder _, .ok _ => true
  | _, _ => false

/-- Whether the order could not be settled because of a call. -/
def Call.fails : (k : Call) → Answer k → Bool
  | .updateOrder _, .error _ => true
  | .publish _ _, .error _ => true
  | _, _ => false

/-- An order is written over a given one, if the call is one that writes it. -/
def Call.Over (s : OrderStore) (o : Order) : Call → Prop
  | .updateOrder after => s.orders.get? after.id = some o
  | _ => True

instance (s : OrderStore) (o : Order) : (k : Call) → Decidable (k.Over s o)
  | .updateOrder after => inferInstanceAs (Decidable (s.orders.get? after.id = some o))
  | .draw | .clock | .insertOrder _ | .findOrder _ | .publish _ _ | .findValidation _
  | .insertValidation _ | .updateValidation _ _ => .isTrue trivial

/-! ## The rank of a report -/

section Way

variable {r : Report} {o : Order} {v : OrderValidation} {st : OrderStore}
  {l : List (Answered Call Answer)} {s : Work (Except ServiceError Outcome)}

/-- How many of some calls give a report its rank. -/
def Report.rankings (r : Report) (l : List (Answered Call Answer)) : Nat :=
  l.countP fun n => n.1.ranks r n.2

/-- The order that was found by some calls. -/
def foundIn (l : List (Answered Call Answer)) : Option Order := l.findSome? fun n => n.1.found? n.2

@[simp]
theorem rankings_nil (r : Report) : r.rankings [] = 0 := rfl

@[simp]
theorem rankings_cons (r : Report) (n : Answered Call Answer) (l : List (Answered Call Answer)) :
    r.rankings (n :: l) = r.rankings l + if n.1.ranks r n.2 then 1 else 0 :=
  List.countP_cons

theorem rankings_append (r : Report) (l l' : List (Answered Call Answer)) :
    r.rankings (l ++ l') = r.rankings l + r.rankings l' :=
  List.countP_append

/-- Reading the order gives a report its rank if that leaves the order as it is. -/
theorem rankings_reading (r : Report) (o : Order) (x : Option OrderValidation) :
    r.rankings (r.reading o x) = if r.leaves o = o then 1 else 0 := by
  simp [Report.reading, Call.ranks]

/-- Before the order is settled, a report has read it only. -/
theorem Report.Past.rankings_eq (h : r.Past o l v) :
    r.rankings l = if r.leaves o = o then 1 else 0 := by
  cases h with
  | unchanged => rw [rankings_append, rankings_reading]; rfl
  | inserted => rw [rankings_append, rankings_reading]; rfl
  | updated => rw [rankings_append, rankings_reading]; rfl

theorem Report.Past.foundIn_append (h : r.Past o l v) (l' : List (Answered Call Answer)) :
    foundIn (l ++ l') = some o := by
  cases h with
  | unchanged => rfl
  | inserted => rfl
  | updated => rfl

/-- Past the store, the order is settled as the report leaves it. -/
theorem Report.Past.settled_eq_leaves (h : r.Past o l v) (hcourier : r.service = Topic.courierService)
    (hl : ∀ n ∈ l, n.1.Shows st n.2) : settled o r.fact v = r.leaves o := by
  unfold Report.leaves
  rw [if_pos hcourier]
  exact settled_eq_after (h.isValid_eq hl) o

/-- **Whether a report has taken its rank among the others.** -/
inductive Report.Rank (r : Report) (l : List (Answered Call Answer))
    (s : Work (Except ServiceError Outcome)) : Prop where
  /-- It has not found the order. -/
  | searching (hfound : foundIn l = none) (hrankings : r.rankings l = 0)
    (hend : ∀ out, s ≠ .done (.ok out))
  /-- It has found the order, and has not written it. -/
  | reading {o : Order} (hfound : foundIn l = some o)
    (hrankings : r.rankings l = if r.leaves o = o then 1 else 0)
    (hend : ∀ out, s = .done (.ok out) → r.leaves o = o ∧ out.accepted = r.accepts o)
  /-- It has written the order. -/
  | written {o : Order} (hfound : foundIn l = some o) (hnew : r.leaves o ≠ o)
    (hrankings : r.rankings l = 1)
    (hend : ∀ out, s = .done (.ok out) → out.accepted = r.accepts o)
    (hfails : ∀ e, s = .done (.error e) → ∃ n ∈ l, n.1.fails n.2 = true)

/-- An order that is stored as the report leaves it has its rank. -/
theorem Written.rank {l₁ l₂ l₃ : List (Answered Call Answer)} (hl₂ : Written r.fact o v l₂)
    (hpast : r.Past o l₁ v) (hleaves : settled o r.fact v = r.leaves o) (hl₃ : r.rankings l₃ = 0)
    (hend : ∀ out, s = .done (.ok out) → out.accepted = r.accepts o)
    (hfails : ∀ e, s = .done (.error e) → ∃ n ∈ l₃, n.1.fails n.2 = true) :
    r.Rank (l₁ ++ (l₂ ++ l₃)) s := by
  have hrankings : r.rankings (l₁ ++ (l₂ ++ l₃))
      = (if r.leaves o = o then 1 else 0) + r.rankings l₂ := by
    rw [rankings_append, rankings_append, hpast.rankings_eq, hl₃, Nat.add_zero]
  cases hl₂ with
  | unchanged hsame =>
    have hsame : r.leaves o = o := hleaves.symm.trans hsame
    refine .reading (hpast.foundIn_append _) hrankings fun out hout => ⟨hsame, hend out hout⟩
  | stored hnew =>
    have hnew : r.leaves o ≠ o := hleaves ▸ hnew
    rw [if_neg hnew] at hrankings
    refine .written (hpast.foundIn_append _) hnew hrankings hend fun e he => ?_
    obtain ⟨n, hn, hfailed⟩ := hfails e he
    exact ⟨n, List.mem_append_right _ (List.mem_append_right _ hn), hfailed⟩

/-- **The work on a report gives it one rank at most**, at a call that can be told. -/
theorem Report.Way.rank (h : r.Way l s) (hl : ∀ n ∈ l, n.1.Shows st n.2) : r.Rank l s := by
  have hread : ∀ {o x l'}, r.rankings l' = 0 →
      r.rankings (r.reading o x ++ l') = if r.leaves o = o then 1 else 0 := by
    intro o x l' hl'
    rw [rankings_append, rankings_reading, hl', Nat.add_zero]
  cases h with
  | asking =>
    refine .searching rfl rfl fun out h => ?_
    unfold Report.work validate at h
    cases h
  | unknown => exact .searching rfl rfl fun out h => by cases h
  | @found o => exact .reading (o := o) rfl (by simp [Call.ranks]) fun out h => by cases h
  | @unread o => exact .reading (o := o) rfl (by simp [Call.ranks]) fun out h => by cases h
  | read => exact .reading rfl (rankings_reading _ _ _) fun out h => by cases h
  | @ignored o x now hother =>
    refine .reading rfl (hread rfl) fun out h => ?_
    cases h
    refine ⟨if_neg hother, ?_⟩
    unfold Report.accepts Report.approves
    simp [hother]
  | inserting => exact .reading rfl (hread rfl) fun out h => by cases h
  | notInserted => exact .reading rfl (hread rfl) fun out h => by cases h
  | updating => exact .reading rfl (hread rfl) fun out h => by cases h
  | notUpdated => exact .reading rfl (hread rfl) fun out h => by cases h
  | @settling o l₁ l₂ v _ hcourier hpast htrail =>
    have hl₁ : ∀ n ∈ l₁, n.1.Shows st n.2 := fun n hn => hl n (List.mem_append_left _ hn)
    have hleaves := hpast.settled_eq_leaves hcourier hl₁
    have haccepts : (v.isValid && o.status ≠ .accepted) = r.accepts o := by
      rw [hpast.isValid_eq hl₁]
      unfold Report.accepts Report.approves
      rw [decide_eq_true hcourier, Bool.true_and]
    cases settling_of_trail htrail with
    | storing =>
      refine .reading (hpast.foundIn_append _) ?_ fun out h => by cases h
      rw [List.append_nil, hpast.rankings_eq]
    | notStored =>
      refine .reading (hpast.foundIn_append _) ?_ fun out h => by cases h
      rw [rankings_append, hpast.rankings_eq]
      rfl
    | announcing hl₂ hv =>
      rw [← List.append_nil l₂]
      exact hl₂.rank hpast hleaves rfl (fun _ h => by cases h) fun _ h => by cases h
    | notAnnounced hl₂ hv =>
      refine hl₂.rank hpast hleaves rfl (fun _ h => by cases h) fun e _ => ?_
      exact ⟨_, List.mem_singleton_self _, rfl⟩
    | announced hl₂ hv =>
      refine hl₂.rank hpast hleaves rfl (fun out h => ?_) fun _ h => by cases h
      cases h
      exact haccepts
    | silent hl₂ hv =>
      rw [← List.append_nil l₂]
      refine hl₂.rank hpast hleaves rfl (fun out h => ?_) fun _ h => by cases h
      cases h
      exact haccepts

/-- **What the next call has to do with the order**: it reads the order, or writes it
as the report leaves it, or has nothing to do with it. -/
theorem Report.Way.next_rank {k : Call} {next : Answer k → Work (Except ServiceError Outcome)}
    (h : r.Way l (.call k next)) (hl : ∀ n ∈ l, n.1.Shows st n.2) :
    (k = .findOrder r.orderId ∧ l = [])
      ∨ (∃ o, k = .updateOrder (r.leaves o) ∧ foundIn l = some o
        ∧ ⟨.findOrder r.orderId, .ok o⟩ ∈ l ∧ o.id = r.orderId)
      ∨ ((∀ a, k.ranks r a = false) ∧ (∀ o, k ≠ .insertOrder o) ∧ ∀ o, k ≠ .updateOrder o) := by
  generalize hs : Script.call k next = s at h
  cases h with
  | asking =>
    unfold Report.work validate at hs
    cases hs
    exact .inl ⟨rfl, rfl⟩
  | found | read | inserting | updating =>
    cases hs
    exact .inr (.inr ⟨fun _ => rfl, fun _ => (by simp), fun _ => (by simp)⟩)
  | @settling o l₁ l₂ v _ hcourier hpast htrail =>
    subst hs
    have hl₁ : ∀ n ∈ l₁, n.1.Shows st n.2 := fun n hn => hl n (List.mem_append_left _ hn)
    cases settling_of_trail htrail with
    | storing =>
      refine .inr (.inl ⟨o, ?_, hpast.foundIn_append _, List.mem_append_left _ hpast.found,
        (hl₁ _ hpast.found).1⟩)
      rw [hpast.settled_eq_leaves hcourier hl₁]
    | announcing => exact .inr (.inr ⟨fun _ => rfl, fun _ => (by simp), fun _ => (by simp)⟩)
  | _ => cases hs

/-- An approval that was taken in without a failure has its order accepted. -/
theorem Report.Way.accepted {out : Outcome} (h : r.Way l (.done (.ok out)))
    (hl : ∀ n ∈ l, n.1.Shows st n.2) (happroves : r.approves = true) : st.Accepted r.orderId := by
  unfold Report.approves at happroves
  rw [Bool.and_eq_true, decide_eq_true_eq] at happroves
  generalize hs : Script.done (Except.ok out) = s at h
  cases h with
  | ignored hother => exact absurd happroves.1 hother
  | @settling o l₁ l₂ v _ hcourier hpast htrail =>
    have hl₁ : ∀ n ∈ l₁, n.1.Shows st n.2 := fun n hn => hl n (List.mem_append_left _ hn)
    have hl₂ : ∀ n ∈ l₂, n.1.Shows st n.2 := fun n hn => hl n (List.mem_append_right _ hn)
    have hv : v.isValid = true := (hpast.isValid_eq hl₁).trans happroves.2
    obtain ⟨hid, hfound⟩ : o.id = r.orderId ∧ (o.status = .accepted → st.Accepted r.orderId) :=
      hl₁ _ hpast.found
    subst hs
    cases settling_of_trail htrail with
    | announced hwritten _ =>
      exact hid ▸ hwritten.accepted hv (hid ▸ hfound) fun n hn => hl₂ n (List.mem_append_left _ hn)
    | silent hwritten hinvalid => exact absurd hv (Bool.eq_false_iff.1 hinvalid)
  | _ => cases hs

end Way

/-! ## Side by side -/

variable {τ : Type} [DecidableEq τ]

/-- **The work by which reports take their ranks**, in the order of the calls that
did it. -/
def ranked (report : τ → Report) (j : Notes τ) : List τ :=
  j.made.filterMap fun m => if m.call.ranks (report m.task) m.answer then some m.task else none

/-- The order that a piece of work has found. -/
def foundBy (j : Notes τ) (t : τ) : Option Order := foundIn (j.log t)

/-- **No order is written over one that has changed** since the work that writes it
has read it. -/
def Undisturbed (j : Notes τ) : Prop :=
  ∀ m ∈ j.made, ∀ n ∈ j.log m.task, ∀ o ∈ n.1.found? n.2, m.call.Over m.before.store o

instance (j : Notes τ) : Decidable (Undisturbed j) :=
  inferInstanceAs (Decidable (∀ m ∈ j.made, ∀ n ∈ j.log m.task, ∀ o ∈ n.1.found? n.2,
    m.call.Over m.before.store o))

section Notes

variable {report : τ → Report} {j : Notes τ} {id : Uuid} {o₀ : Order}

omit [DecidableEq τ] in
theorem ranked_add (m : Made τ Call Answer State) (j : Notes τ) : ranked report (j.add m)
    = ranked report j ++ if m.call.ranks (report m.task) m.answer then [m.task] else [] :=
  Journal.filterMap_made_add
    (fun t (n : Answered Call Answer) => n.1.ranks (report t) n.2) m j

theorem count_ranked (report : τ → Report) (j : Notes τ) (t : τ) :
    (ranked report j).count t = (report t).rankings (j.log t) :=
  Journal.count_filterMap_made
    (fun t (n : Answered Call Answer) => n.1.ranks (report t) n.2) t j

theorem mem_ranked_iff (report : τ → Report) (j : Notes τ) (t : τ) :
    t ∈ ranked report j ↔ 0 < (report t).rankings (j.log t) := by
  rw [← List.count_pos_iff, count_ranked]

/-- What was found first is not forgotten. -/
theorem foundBy_add {t : τ} {o : Order} (h : foundBy j t = some o) (m : Made τ Call Answer State) :
    foundBy (j.add m) t = some o := by
  unfold foundBy foundIn at h ⊢
  rw [Journal.log_add]
  split
  · rw [List.findSome?_append, h]
    rfl
  · exact h

theorem Undisturbed.of_add {m : Made τ Call Answer State} (h : Undisturbed (j.add m)) :
    Undisturbed j := fun m' hm' n hn =>
  h m' (List.mem_append_left _ hm') n (Journal.log_subset_add _ _ _ hn)

/-- **Every call has worked as far as the order goes**, and that is there still, as
accepted as before at least. -/
structure Steady (id : Uuid) (o₀ : Order) (j : Notes τ) : Prop where
  /-- The order has the status that it had, or it is accepted. -/
  status : ∃ o, j.state.store.orders.get? id = some o
    ∧ (o.status = o₀.status ∨ o.status = .accepted)
  /-- No order could not be settled because of a call. -/
  unfailing : ∀ t, ∀ n ∈ j.log t, n.1.fails n.2 = false

/-- **The order is as the reports leave it**, one after another as they are
ranked. -/
structure Ranked (report : τ → Report) (id : Uuid) (o₀ : Order) (j : Notes τ) : Prop where
  /-- The order is what the reports make of it. -/
  order : ∃ o, j.state.store.orders.get? id = some o
    ∧ Successive report (foundBy j) o₀ (ranked report j) o
  /-- No call has made an assigned courier disappear. -/
  assigned : ∀ m ∈ j.made, ∀ o, m.before.store.orders.get? id = some o → o.courierId.isSome = true →
    ∃ o', m.after.store.orders.get? id = some o' ∧ o'.courierId.isSome = true

variable {w : World} {k : Call} {t : τ} {next : Answer k → Work (Except ServiceError Outcome)}

/-- An order that is written over what was read is as the report leaves it. -/
theorem answer_updateOrder_leaves {s : State} (hw : w.Works) {r : Report} {o : Order}
    (ho : s.store.orders.get? o.id = some o) :
    (w.answer (.updateOrder (r.leaves o)) s).1 = .ok ()
      ∧ (w.answer (.updateOrder (r.leaves o)) s).2.store.orders.get? o.id = some (r.leaves o) := by
  have hwritten : { o with courierId := (r.leaves o).courierId, status := (r.leaves o).status }
      = r.leaves o := by
    unfold Report.leaves
    split
    · rfl
    · rfl
  unfold World.answer answer
  rw [hw (.updateOrder (r.leaves o))]
  unfold Fate.apply OrderStore.updateOrder
  dsimp only
  rw [id_leaves, ho]
  exact ⟨rfl, (Table.get?_put_self _ _ _).trans (congrArg some hwritten)⟩

/-- No call fails that is to settle an order that is there. -/
theorem fails_answer {s : State} (hw : w.Works)
    (hthere : ∀ after, k = .updateOrder after → (s.store.orders.get? after.id).isSome = true) :
    k.fails (w.answer k s).1 = false := by
  cases k with
  | updateOrder after =>
    obtain ⟨o, ho⟩ := Option.isSome_iff_exists.1 (hthere after rfl)
    have hanswer : (w.answer (.updateOrder after) s).1 = .ok () := by
      unfold World.answer answer
      rw [hw (.updateOrder after)]
      unfold Fate.apply OrderStore.updateOrder
      dsimp only
      rw [ho]
    rw [hanswer]
    rfl
  | publish o event =>
    have hanswer : (w.answer (.publish o event) s).1 = .ok () := by
      unfold World.answer answer
      rw [hw (.publish o event)]
      rfl
    rw [hanswer]
    rfl
  | _ => rfl

theorem Steady.add (h : Steady id o₀ j) (hid : (report t).orderId = id)
    (hway : (report t).Way (j.log t) (.call k next))
    (hshown : ∀ n ∈ j.log t, n.1.Shows j.state.store n.2) (hw : w.Works) :
    Steady id o₀ (j.add (Course.answered w t k j.state)) := by
  obtain ⟨o, ho, hstatus⟩ := h.status
  have hafter : ∀ after, k = .updateOrder after → after.id = id := by
    rintro after rfl
    exact (hway.approves hshown).2.1.trans hid
  refine ⟨?_, fun t' n hn => ?_⟩
  · show ∃ o, (w.answer k j.state).2.store.orders.get? id = some o ∧ _
    by_cases hupdate : ∃ after, k = .updateOrder after
    · obtain ⟨after, rfl⟩ := hupdate
      have haccepted : after.status = .accepted := hway.heeds hshown
      obtain rfl := hafter after rfl
      rcases orders_answer_updateOrder (w := w) (s := j.state) after with horders | ⟨_, -, horders⟩
      · rw [horders]
        exact ⟨o, ho, hstatus⟩
      · rw [horders]
        exact ⟨_, Table.get?_put_self _ _ _, .inr haccepted⟩
    · have hheeds := hway.heeds hshown
      rw [orders_answer (fun o ho => ?_) fun after heq => hupdate ⟨after, heq⟩]
      · exact ⟨o, ho, hstatus⟩
      · subst ho
        exact hheeds
  · rw [Journal.log_add] at hn
    split at hn
    · rcases List.mem_append.1 hn with hn | hn
      · exact h.unfailing t' n hn
      · refine List.mem_singleton.1 hn ▸ fails_answer hw fun after heq => ?_
        rw [hafter after heq, ho]
        rfl
    · exact h.unfailing t' n hn

/-- One more call that leaves the order as it is. -/
theorem Ranked.add_of_same (h : Ranked report id o₀ j) {m : Made τ Call Answer State}
    (hbefore : m.before = j.state) (horders : m.after.store.orders = m.before.store.orders)
    (hranks : m.call.ranks (report m.task) m.answer = false) : Ranked report id o₀ (j.add m) := by
  obtain ⟨o, ho, hsuccessive⟩ := h.order
  refine ⟨⟨o, ?_, ?_⟩, fun m' hm' o' ho' hsome => ?_⟩
  · show m.after.store.orders.get? id = some o
    rw [horders, hbefore, ho]
  · rw [ranked_add, hranks]
    exact (List.append_nil _).symm ▸ hsuccessive.mono fun _ _ hfound => foundBy_add hfound m
  · rcases List.mem_append.1 hm' with hm' | hm'
    · exact h.assigned m' hm' o' ho' hsome
    · obtain rfl := List.mem_singleton.1 hm'
      exact ⟨o', by rw [horders, ho'], hsome⟩

/-- One more call, by which a report takes its rank. -/
theorem Ranked.add_of_ranks (h : Ranked report id o₀ j) {m : Made τ Call Answer State} {o : Order}
    (hbefore : m.before = j.state) (ho : j.state.store.orders.get? id = some o)
    (hfound : foundBy (j.add m) m.task = some o)
    (hafter : m.after.store.orders.get? id = some ((report m.task).leaves o))
    (hranks : m.call.ranks (report m.task) m.answer = true) : Ranked report id o₀ (j.add m) := by
  obtain ⟨o', ho', hsuccessive⟩ := h.order
  obtain rfl := Option.some.inj (ho.symm.trans ho')
  refine ⟨⟨_, hafter, ?_⟩, fun m' hm' o' ho' hsome => ?_⟩
  · rw [ranked_add, if_pos hranks]
    exact (hsuccessive.mono fun _ _ hfound => foundBy_add hfound m).concat hfound
  · rcases List.mem_append.1 hm' with hm' | hm'
    · exact h.assigned m' hm' o' ho' hsome
    · obtain rfl := List.mem_singleton.1 hm'
      rw [hbefore, ho] at ho'
      obtain rfl := Option.some.inj ho'
      exact ⟨_, hafter, isSome_courierId_leaves hsome⟩

/-- **Every call keeps the order as the reports leave it**, as long as orders are
written over what was read. -/
theorem Ranked.add (h : Ranked report id o₀ j) (hid : (report t).orderId = id)
    (hway : (report t).Way (j.log t) (.call k next))
    (hshown : ∀ n ∈ j.log t, n.1.Shows j.state.store n.2) (hw : w.Works)
    (hundisturbed : Undisturbed (j.add (Course.answered w t k j.state))) :
    Ranked report id o₀ (j.add (Course.answered w t k j.state)) := by
  obtain ⟨o, ho, hsuccessive⟩ := h.order
  rcases hway.next_rank hshown with ⟨rfl, hlog⟩ | ⟨o', rfl, hfound, hmem, hoid⟩ | ⟨hranks, hinsert, hupdate⟩
  · have hanswer : w.answer (.findOrder (report t).orderId) j.state = (.ok o, j.state) :=
      (answer_findOrder (w := w) (hid.symm ▸ ho)).resolve_right fun hfailed => hfailed.1 hw.stores
    have hnoted : Course.answered w t (.findOrder (report t).orderId) j.state
        = ⟨t, .findOrder (report t).orderId, .ok o, j.state, j.state⟩ := by
      unfold Course.answered
      rw [hanswer]
    rw [hnoted]
    by_cases hleaves : (report t).leaves o = o
    · refine h.add_of_ranks rfl ho ?_ (hleaves.symm ▸ ho) (decide_eq_true hleaves)
      unfold foundBy
      rw [Journal.log_add, if_pos rfl, hlog]
      rfl
    · exact h.add_of_same rfl rfl (decide_eq_false hleaves)
  · -- what is there is what was read, so it is written as the report leaves it
    have hthere : j.state.store.orders.get? (report t).orderId = some o' := by
      rw [← hoid, ← id_leaves (report t) o']
      exact hundisturbed _ (List.mem_append_right _ (List.mem_singleton_self _)) _
        (Journal.log_subset_add _ _ _ hmem) o' rfl
    obtain ⟨hanswer, hafter⟩ := answer_updateOrder_leaves (w := w) hw (hoid.symm ▸ hthere)
    rw [hoid, hid] at hafter
    refine h.add_of_ranks rfl (hid ▸ hthere) (foundBy_add hfound _) hafter ?_
    show (Call.updateOrder _).ranks _ (w.answer (.updateOrder _) j.state).1 = true
    rw [hanswer]
    rfl
  · exact h.add_of_same rfl (orders_answer hinsert hupdate) (hranks _)

end Notes

end CourierDispatch.OrderService
