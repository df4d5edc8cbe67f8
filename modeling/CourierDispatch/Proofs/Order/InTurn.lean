import CourierDispatch.Proofs.Order.Course
import CourierDispatch.Proofs.Order.Redelivery

/-!
# Reports one after another

What one report makes of an order is known from the order alone (`Report.leaves`), and
so is whether the report takes itself for the one that has accepted it
(`Report.accepts`). Reports that are taken in one after another (`inTurn`) therefore
leave of an order what each of them leaves, in turn (`Successive`), if every call
works: the status is that of an accepted order once one of them approves it, and one
of them at most has accepted it.
-/

namespace CourierDispatch.OrderService

/-! ## What a report makes of an order -/

/-- **The order as a report leaves it.** Unknown services change nothing. -/
def Report.leaves (r : Report) (o : Order) : Order :=
  if r.service = Topic.courierService then o.after r.fact else o

/-- The report approves its order. -/
def Report.approves (r : Report) : Bool := r.service = Topic.courierService && r.fact.isSuccessful

/-- **Whether a report accepts an order** that it finds. -/
def Report.accepts (r : Report) (o : Order) : Bool := r.approves && o.status ≠ .accepted

theorem id_leaves (r : Report) (o : Order) : (r.leaves o).id = o.id := by
  unfold Report.leaves
  split
  · rfl
  · rfl

theorem status_leaves (r : Report) (o : Order) :
    (r.leaves o).status = if r.approves then .accepted else o.status := by
  unfold Report.leaves Report.approves
  by_cases hcourier : r.service = Topic.courierService
  · rw [if_pos hcourier, decide_eq_true hcourier, Bool.true_and]
    rfl
  · rw [if_neg hcourier, decide_eq_false hcourier, Bool.false_and]
    rfl

/-- A report that accepts an order approves it. -/
theorem approves_of_accepts {r : Report} {o : Order} (h : r.accepts o = true) : r.approves = true := by
  unfold Report.accepts at h
  rw [Bool.and_eq_true] at h
  exact h.1

/-- A courier that was assigned stays, or another one comes in its place. -/
theorem isSome_courierId_leaves {r : Report} {o : Order} (h : o.courierId.isSome = true) :
    (r.leaves o).courierId.isSome = true := by
  unfold Report.leaves
  split
  · show (r.fact.courier? <|> o.courierId).isSome = true
    cases r.fact.courier? with
    | none => exact h
    | some c => rfl
  · exact h

/-! ## One after another -/

section InTurn

variable {τ : Type}

/-- **Reports taken in one after another**, each in a world of its own: what they
led to, and the state in the end. -/
def inTurn (report : τ → Report) (world : τ → World) (ts : List τ) (s : State) :
    List (Except ServiceError Outcome) × State :=
  ts.foldl (fun p t =>
    let q := (report t).work.run (world t).answer p.2
    (p.1 ++ [q.1], q.2)) ([], s)

/-- Whether a report has accepted the order, if it was taken in. -/
def accepted? : Except ServiceError Outcome → Option Bool
  | .ok out => some out.accepted
  | .error _ => none

/-- **Reports one after another at an order**: each finds what those before it leave
of the order `o₀`. -/
inductive Successive (report : τ → Report) (found? : τ → Option Order) (o₀ : Order) :
    List τ → Order → Prop where
  /-- The order is as it was. -/
  | nil : Successive report found? o₀ [] o₀
  /-- One more report comes. -/
  | concat {ts : List τ} {o : Order} {t : τ} (h : Successive report found? o₀ ts o)
      (hfound : found? t = some o) :
    Successive report found? o₀ (ts ++ [t]) ((report t).leaves o)

variable {report : τ → Report} {found? found?' : τ → Option Order} {o₀ o : Order} {ts : List τ}

/-- What was found once is not found otherwise later. -/
theorem Successive.mono (h : Successive report found? o₀ ts o)
    (hfound : ∀ t o, found? t = some o → found?' t = some o) :
    Successive report found?' o₀ ts o := by
  induction h with
  | nil => exact .nil
  | concat _ ho ih => exact ih.concat (hfound _ _ ho)

/-- **Reports that leave the order as they find it can be left out.** -/
theorem Successive.filter {p : τ → Bool} (h : Successive report found? o₀ ts o)
    (hleaves : ∀ t ∈ ts, p t = false → ∀ o, found? t = some o → (report t).leaves o = o) :
    Successive report found? o₀ (ts.filter p) o := by
  induction h with
  | nil => exact .nil
  | @concat ts o t h ho ih =>
    have ih := ih fun t' ht' => hleaves t' (List.mem_append_left _ ht')
    rw [List.filter_append]
    cases hp : p t with
    | true =>
      rw [List.filter_cons_of_pos hp]
      exact ih.concat ho
    | false =>
      rw [List.filter_cons_of_neg (by simp [hp]), List.filter_nil, List.append_nil,
        hleaves t (List.mem_append_right _ (List.mem_singleton_self _)) hp o ho]
      exact ih

/-- The order in the end. -/
theorem Successive.eq_foldl (h : Successive report found? o₀ ts o) :
    o = ts.foldl (fun o t => (report t).leaves o) o₀ := by
  induction h with
  | nil => rfl
  | concat _ _ ih =>
    rw [List.foldl_append, ← ih]
    rfl

/-- An order that some reports approve is accepted in the end, and otherwise has the
status that it had. -/
theorem status_foldl_leaves (report : τ → Report) (ts : List τ) (o₀ : Order) :
    (ts.foldl (fun o t => (report t).leaves o) o₀).status
      = if ts.any fun t => (report t).approves then .accepted else o₀.status := by
  induction ts using List.reverseRecOn with
  | nil => rfl
  | append_singleton ts t ih =>
    rw [List.foldl_append, List.any_append, List.foldl_cons, List.foldl_nil, status_leaves, ih,
      List.any_cons, List.any_nil, Bool.or_false]
    cases (report t).approves with
    | true => rw [Bool.or_true, if_pos rfl, if_pos rfl]
    | false => rw [Bool.or_false, if_neg Bool.false_ne_true]

/-- An order that one of the reports approves is accepted in the end. -/
theorem Successive.accepted (h : Successive report found? o₀ ts o) {t : τ} (ht : t ∈ ts)
    (happroves : (report t).approves = true) : o.status = .accepted := by
  rw [h.eq_foldl, status_foldl_leaves, if_pos (List.any_eq_true.2 ⟨t, ht, happroves⟩)]

/-- **One report accepts the order at most.** -/
theorem Successive.accepts_unique (h : Successive report found? o₀ ts o) {t t' : τ} (ht : t ∈ ts)
    (ht' : t' ∈ ts) {o₁ o₂ : Order} (ho₁ : found? t = some o₁) (ho₂ : found? t' = some o₂)
    (h₁ : (report t).accepts o₁ = true) (h₂ : (report t').accepts o₂ = true) : t = t' := by
  induction h with
  | nil => cases ht
  | @concat ts o u h ho ih =>
    -- what the last report finds is accepted if an earlier one approves it
    have hlast : ∀ {t o₁}, t ∈ ts → (report t).accepts o₁ = true → (report u).accepts o = false := by
      intro t o₁ ht h₁
      unfold Report.accepts
      simp [h.accepted ht (approves_of_accepts h₁)]
    rcases List.mem_append.1 ht with hold | hnew
    · rcases List.mem_append.1 ht' with hold' | hnew'
      · exact ih hold hold'
      · obtain rfl := List.mem_singleton.1 hnew'
        obtain rfl := Option.some.inj (ho.symm.trans ho₂)
        rw [hlast hold h₁] at h₂
        cases h₂
    · obtain rfl := List.mem_singleton.1 hnew
      obtain rfl := Option.some.inj (ho.symm.trans ho₁)
      rcases List.mem_append.1 ht' with hold' | hnew'
      · rw [hlast hold' h₂] at h₁
        cases h₁
      · exact (List.mem_singleton.1 hnew').symm

variable {world : τ → World} {s : State} {id : Uuid}

theorem World.Works.stores {w : World} (h : w.Works) : w.Stores := fun c _ => h c

/-- A report of an unknown service is taken in without a failure if every call
works. -/
theorem run_of_ne_of_works {w : World} (hw : w.Works) {r : Report}
    (hother : r.service ≠ Topic.courierService) (ho : s.store.orders.get? r.orderId = some o) :
    ∃ out, (r.work.run w.answer s).1 = .ok out := by
  unfold Report.work validate
  rw [Script.run_call, (answer_findOrder (w := w) ho).resolve_right fun h => h.1 hw.stores]
  dsimp only
  rw [Script.run_call, (answer_findValidation (w := w) r.orderId).resolve_right fun h => h.1 hw.stores]
  dsimp only
  rw [apply_of_ne hother, Script.run_call]
  exact ⟨_, rfl⟩

/-- **A report leaves the order as it is to leave it**, if every call works. -/
theorem leaves_run {w : World} (hw : w.Works) (hkeyed : s.store.Keyed) {r : Report}
    (ho : s.store.orders.get? r.orderId = some o) :
    (r.work.run w.answer s).2.store.orders.get? r.orderId = some (r.leaves o)
      ∧ accepted? (r.work.run w.answer s).1 = some (r.accepts o) := by
  by_cases hcourier : r.service = Topic.courierService
  · have htaken := takenIn_run (w := w) hkeyed ho r.fact
    rw [← hcourier] at htaken
    unfold Report.leaves Report.accepts Report.approves
    rw [if_pos hcourier, decide_eq_true hcourier, Bool.true_and]
    refine ⟨(htaken.complete (.inl hw.stores)).1, ?_⟩
    show accepted? ((validate r.service r.orderId r.fact).run w.answer s).1 = _
    cases hresult : ((validate r.service r.orderId r.fact).run w.answer s).1 with
    | error e => exact absurd (htaken.failure e hresult) (hw.not_gives e)
    | ok out =>
      exact congrArg some (htaken.result out hresult)
  · obtain ⟨hstate, hflag⟩ : (r.work.run w.answer s).2 = s
        ∧ ∀ out, (r.work.run w.answer s).1 = .ok out → out.accepted = false :=
      run_of_ne hcourier ho
    obtain ⟨out, hout⟩ := run_of_ne_of_works hw hcourier ho
    have hleaves : r.leaves o = o := if_neg hcourier
    have haccepts : r.accepts o = false := by
      unfold Report.accepts Report.approves
      simp [hcourier]
    rw [hleaves, haccepts, hstate, ho]
    refine ⟨rfl, ?_⟩
    rw [hout]
    exact congrArg some (hflag out hout)

theorem inTurn_concat (ts : List τ) (t : τ) (s : State) :
    inTurn report world (ts ++ [t]) s
      = ((inTurn report world ts s).1
          ++ [((report t).work.run (world t).answer (inTurn report world ts s).2).1],
        ((report t).work.run (world t).answer (inTurn report world ts s).2).2) := by
  unfold inTurn
  rw [List.foldl_append]
  rfl

theorem keyed_inTurn (hkeyed : s.store.Keyed) (ts : List τ) :
    (inTurn report world ts s).2.store.Keyed := by
  induction ts using List.reverseRecOn with
  | nil => exact hkeyed
  | append_singleton ts t ih =>
    rw [inTurn_concat]
    exact keyed_run ih _

/-- **The order after reports one after another.** -/
theorem order_inTurn (hworld : ∀ t, (world t).Works) (hid : ∀ t, (report t).orderId = id)
    (hkeyed : s.store.Keyed) (ho₀ : s.store.orders.get? id = some o₀) (ts : List τ) :
    (inTurn report world ts s).2.store.orders.get? id
      = some (ts.foldl (fun o t => (report t).leaves o) o₀) := by
  induction ts using List.reverseRecOn with
  | nil => exact ho₀
  | append_singleton ts t ih =>
    rw [inTurn_concat, List.foldl_append]
    have hrun := leaves_run (hworld t) (keyed_inTurn hkeyed ts) ((hid t).symm ▸ ih)
    rw [hid t] at hrun
    exact hrun.1

/-- **Who accepts the order**, if reports come one after another. -/
theorem Successive.accepted_inTurn (h : Successive report found? o₀ ts o)
    (hworld : ∀ t, (world t).Works) (hid : ∀ t, (report t).orderId = id) (hkeyed : s.store.Keyed)
    (ho₀ : s.store.orders.get? id = some o₀) :
    (inTurn report world ts s).1.map accepted?
      = ts.map fun t => (found? t).map (report t).accepts := by
  induction h with
  | nil => rfl
  | @concat ts o t h ho ih =>
    have horder := order_inTurn hworld hid hkeyed ho₀ ts
    rw [← h.eq_foldl] at horder
    rw [inTurn_concat, List.map_append, List.map_append, ih]
    show _ ++ [accepted? _] = _ ++ [(found? t).map (report t).accepts]
    rw [(leaves_run (hworld t) (keyed_inTurn hkeyed ts) ((hid t).symm ▸ horder)).2, ho]
    rfl

end InTurn

end CourierDispatch.OrderService
