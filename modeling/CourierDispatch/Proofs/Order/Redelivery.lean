import CourierDispatch.Proofs.Order.OneReport

/-!
# Redelivered reports

Reports of an order are delivered in their order. When the work on one fails,
the delivery starts again, there or at any earlier report, and what is then
delivered is delivered again to a store that may have taken in half of the
report that failed. All the same, when the last report has been handled the
order and its record are as one pass without failures leaves them
(`redelivery_effect`).

What is compared is the standing of the order: its status, its courier, whether
it was ever approved, and why it is refused. A report changes each of the four by
itself, so that half of a report is a change to some of them. That nothing of it
is seen in the end is because the report is still to come: taking in reports
among which it is absorbs it (`Standing.foldl_absorbs`).
-/

namespace CourierDispatch.OrderService

/-! ## The standing of an order -/

/-- **The standing of an order**, as far as reports change it. -/
@[ext]
structure Standing where
  /-- The status of the order. -/
  status : OrderStatus
  /-- The courier of the order. -/
  courierId : Option Uuid
  /-- Whether the record has a time of approval. -/
  approved : Bool
  /-- The error of the record. -/
  refusal : Option String

namespace Standing

/-- The standing that an order and its record show. -/
def of (o : Order) (v : Option OrderValidation) : Standing :=
  ⟨o.status, o.courierId, (v.bind (·.courierValidatedAt)).isSome, v.bind (·.courierError)⟩

/-- The standing after a report. -/
def after (x : Standing) (f : ValidationFact) : Standing where
  status := if f.isSuccessful then .accepted else x.status
  courierId := f.courier? <|> x.courierId
  approved := x.approved || f.isSuccessful
  refusal := if f.isSuccessful then none else some (f.error.getD ValidationFact.defaultError)

/-- **A standing between two**: each part of it is that of the one before the
report or that of the one after it. -/
structure Between (f : ValidationFact) (x y : Standing) : Prop where
  /-- The status. -/
  status : y.status = x.status ∨ y.status = (x.after f).status
  /-- The courier. -/
  courierId : y.courierId = x.courierId ∨ y.courierId = (x.after f).courierId
  /-- The approval. -/
  approved : y.approved = x.approved ∨ y.approved = (x.after f).approved
  /-- The refusal. -/
  refusal : y.refusal = x.refusal ∨ y.refusal = (x.after f).refusal

variable {x y : Standing} {f g : ValidationFact}

/-- Taking in a report, all of it, leaves nothing of what was half done of
it. -/
theorem Between.after_self (h : Between f x y) : y.after f = x.after f := by
  unfold Standing.after
  ext1
  · show (if f.isSuccessful then _ else y.status) = if f.isSuccessful then _ else x.status
    rcases h.status with hs | hs <;> rw [hs]
    unfold Standing.after
    cases f.isSuccessful <;> rfl
  · show (f.courier? <|> y.courierId) = (f.courier? <|> x.courierId)
    rcases h.courierId with hc | hc <;> rw [hc]
    unfold Standing.after
    cases f.courier? <;> rfl
  · show (y.approved || f.isSuccessful) = (x.approved || f.isSuccessful)
    rcases h.approved with ha | ha <;> rw [ha]
    show (x.approved || f.isSuccessful || f.isSuccessful) = _
    rw [Bool.or_assoc, Bool.or_self]
  · rfl

/-- A standing between two stays so under another report. -/
theorem Between.after (h : Between f x y) (g : ValidationFact) :
    Between f (x.after g) (y.after g) where
  status := by
    show (if g.isSuccessful then _ else y.status) = (if g.isSuccessful then _ else x.status)
      ∨ (if g.isSuccessful then _ else y.status) = (if f.isSuccessful then _ else if _ then _ else _)
    rcases h.status with hs | hs
    · exact .inl (by rw [hs])
    · rw [hs]
      unfold Standing.after
      cases f.isSuccessful <;> cases g.isSuccessful <;> simp
  courierId := by
    show (g.courier? <|> y.courierId) = (g.courier? <|> x.courierId)
      ∨ (g.courier? <|> y.courierId) = (f.courier? <|> g.courier? <|> x.courierId)
    rcases h.courierId with hc | hc
    · exact .inl (by rw [hc])
    · rw [hc]
      unfold Standing.after
      -- a courier that the other report names hides what was half done
      cases g.courier? with
      | none => exact .inr rfl
      | some c => exact .inl rfl
  approved := by
    show (y.approved || g.isSuccessful) = (x.approved || g.isSuccessful)
      ∨ (y.approved || g.isSuccessful) = (x.approved || g.isSuccessful || f.isSuccessful)
    rcases h.approved with ha | ha
    · exact .inl (by rw [ha])
    · rw [ha]
      exact .inr (Bool.or_right_comm _ _ _)
  refusal := .inl rfl

/-- **Taking in reports absorbs** what was half done of one of them. -/
theorem foldl_absorbs {fs : List ValidationFact} (hf : f ∈ fs) (h : Between f x y) :
    fs.foldl Standing.after y = fs.foldl Standing.after x := by
  induction fs generalizing x y with
  | nil => cases hf
  | cons g rest ih =>
    rw [List.foldl_cons, List.foldl_cons]
    rcases List.mem_cons.1 hf with rfl | hf
    · rw [h.after_self]
    · exact ih hf (h.after g)

end Standing

/-- The standing of the order of an identifier, if there is one. -/
def standing? (id : Uuid) (s : State) : Option Standing :=
  (s.store.orders.get? id).map fun o => .of o (s.store.validations.get? id)

/-! ## One report -/

variable {w : World} {s s₀ : State} {id : Uuid} {f : ValidationFact} {o : Order}

/-- What a record says after a report. -/
theorem says_of_sameState {v : OrderValidation} {r : Option OrderValidation} {now : Instant}
    (h : v.sameState (f.applyTo now (r.getD (.start id now))) = true) :
    v.courierValidatedAt.isSome = ((r.bind (·.courierValidatedAt)).isSome || f.isSuccessful)
      ∧ v.courierError
        = if f.isSuccessful then none else some (f.error.getD ValidationFact.defaultError) := by
  obtain ⟨hat, herr⟩ := OrderValidation.sameState_iff.1 h
  rw [hat, herr]
  unfold ValidationFact.applyTo
  cases hf : f.isSuccessful with
  | true => exact ⟨(Bool.or_true _).symm, rfl⟩
  | false =>
    refine ⟨?_, rfl⟩
    rw [Bool.or_false]
    cases r <;> rfl

/-- **Work on a report leaves a standing between** that before it and that after
it, and that after it if the work ends well. -/
theorem between_of_takenIn {p : Except ServiceError Outcome × State} (h : TakenIn w id f o s p) :
    let x := Standing.of o (s.store.validations.get? id)
    ∃ y, standing? id p.2 = some y ∧ Standing.Between f x y
      ∧ ((∃ out, p.1 = .ok out) → y = x.after f) := by
  intro x
  have horder : ∃ o', p.2.store.orders.get? id = some o' ∧ (o' = o ∨ o' = o.after f) := by
    rcases h.order with ho | ho
    · exact ⟨o, ho, .inl rfl⟩
    · exact ⟨_, ho, .inr rfl⟩
  obtain ⟨o', ho', horder⟩ := horder
  refine ⟨Standing.of o' (p.2.store.validations.get? id), ?_, ?_, ?_⟩
  · unfold standing?
    rw [ho', Option.map_some]
  · refine ⟨?_, ?_, ?_, ?_⟩
    · exact horder.imp (fun h => by rw [h]; rfl) (fun h => by rw [h]; rfl)
    · exact horder.imp (fun h => by rw [h]; rfl) (fun h => by rw [h]; rfl)
    · refine h.record.imp (fun h => by rw [h]; rfl) ?_
      rintro ⟨v, hv, hsame⟩
      rw [hv]
      exact (says_of_sameState hsame).1
    · refine h.record.imp (fun h => by rw [h]; rfl) ?_
      rintro ⟨v, hv, hsame⟩
      rw [hv]
      exact (says_of_sameState hsame).2
  · intro hok
    obtain ⟨ho, v, hv, hrec⟩ := h.complete (.inr hok)
    obtain rfl := Option.some.inj (ho'.symm.trans ho)
    obtain ⟨hat, herr⟩ := says_of_sameState hrec.sameState
    rw [hv]
    exact Standing.ext rfl rfl hat herr

/-! ## The schedule -/

/-- No call fails as if something were not found, for which the handler would
take the report to be one about an unknown order and pass over it. -/
def World.Plain (w : World) : Prop := ∀ e, w.Gives e → e.isNotFound = false

/-- **The states that deliveries of reports lead to**, each with the place of the
next report to be delivered. The reports `M` of the courier service about an order
are delivered in their order, from the start and from there on: a report that has
been handled is followed by the next one; at one on which the work has failed the
delivery stays; and it may always go back. -/
inductive Redelivered (id : Uuid) (M : List ValidationFact) (s₀ : State) : Nat → State → Prop where
  /-- Nothing has been delivered. -/
  | start : Redelivered id M s₀ 0 s₀
  /-- A report has been handled. -/
  | handled {n : Nat} {s : State} {f : ValidationFact} {j : Json} {w : World}
      (h : Redelivered id M s₀ n s) (hf : M[n]? = some f)
      (hj : Report.ofJson? j = some ⟨Topic.courierService, id, f⟩) (hw : w.Plain)
      (hok : ((handle j).run w.answer s).1 = .ok ()) :
      Redelivered id M s₀ (n + 1) ((handle j).run w.answer s).2
  /-- A report has been worked on, and the work may have failed anywhere. -/
  | brokenOff {n : Nat} {s : State} {f : ValidationFact} {j : Json} {w : World}
      (h : Redelivered id M s₀ n s) (hf : M[n]? = some f)
      (hj : Report.ofJson? j = some ⟨Topic.courierService, id, f⟩) :
      Redelivered id M s₀ n ((handle j).run w.answer s).2
  /-- The delivery goes back. -/
  | again {n k : Nat} {s : State} (h : Redelivered id M s₀ n s) (hk : k ≤ n) :
      Redelivered id M s₀ k s

/-- Handling a report is taking it in; it ends well if taking it in does, or if
something was not found. -/
theorem handle_run {j : Json} (hj : Report.ofJson? j = some ⟨Topic.courierService, id, f⟩) :
    let p := (validate Topic.courierService id f).run w.answer s
    ((handle j).run w.answer s).2 = p.2
      ∧ (((handle j).run w.answer s).1 = .ok () ↔
        (∃ out, p.1 = .ok out) ∨ ∃ e, p.1 = .error e ∧ e.isNotFound = true) := by
  unfold handle
  rw [hj]
  dsimp only
  rw [Script.run_bind]
  obtain ⟨r, s'⟩ := (validate Topic.courierService id f).run w.answer s
  cases r with
  | ok out => exact ⟨rfl, fun _ => .inl ⟨out, rfl⟩, fun _ => rfl⟩
  | error e =>
    dsimp only
    split
    · next he => exact ⟨rfl, fun _ => .inr ⟨e, rfl, he⟩, fun _ => rfl⟩
    · next he =>
      refine ⟨rfl, fun h => (by cases h), ?_⟩
      rintro (⟨out, hout⟩ | ⟨e', he', hfound⟩)
      · cases hout
      · exact absurd (Except.error.inj he' ▸ hfound) he

/-- A report that has been handled has been taken in, if no call failed as if
something were not found. -/
theorem ok_of_handle_ok {j : Json} (hj : Report.ofJson? j = some ⟨Topic.courierService, id, f⟩)
    (hw : w.Plain) (hkeyed : s.store.Keyed) (ho : s.store.orders.get? id = some o)
    (hok : ((handle j).run w.answer s).1 = .ok ()) :
    ∃ out, ((validate Topic.courierService id f).run w.answer s).1 = .ok out := by
  rcases (handle_run hj).2.1 hok with hout | ⟨e, he, hfound⟩
  · exact hout
  · have hplain := hw e ((takenIn_run hkeyed ho f).failure e he)
    rw [hfound] at hplain
    cases hplain

/-! ## What every delivery keeps -/

/-- **What is true after deliveries** up to the place `n` of the reports `M`. -/
structure Progress (id : Uuid) (M : List ValidationFact) (s₀ : State) (x₀ : Standing) (n : Nat)
    (s : State) : Prop where
  /-- Everything stands under its own identifier. -/
  keyed : s.store.Keyed
  /-- From here, or from anywhere before, the remaining reports lead to where all
  of them lead from the start. -/
  standing : ∃ x, standing? id s = some x ∧
    ∀ k ≤ n, (M.drop k).foldl Standing.after x = M.foldl Standing.after x₀
  /-- There is a record if a report has been handled. -/
  recorded : 0 < n → (s.store.validations.get? id).isSome = true
  /-- The order was announced if an approval has been handled. -/
  announced : ∃ new, s.announced = s₀.announced ++ new ∧
    ∀ k < n, ∀ g, M[k]? = some g → g.isSuccessful = true →
      ∃ a ∈ new, a.order.id = id ∧ a.event = Topic.orderUpdated

variable {M : List ValidationFact} {x₀ : Standing} {n : Nat}

/-- A report among those that remain is absorbed by them. -/
theorem foldl_drop_absorbs {x y : Standing} {k : Nat} (hf : M[n]? = some f) (hk : k ≤ n)
    (h : Standing.Between f x y) :
    (M.drop k).foldl Standing.after y = (M.drop k).foldl Standing.after x := by
  refine Standing.foldl_absorbs (List.mem_of_getElem? (i := n - k) ?_) h
  rw [List.getElem?_drop, Nat.add_sub_cancel' hk, hf]

/-- A standing is that of a stored order. -/
theorem order_of_standing? {x : Standing} (h : standing? id s = some x) :
    ∃ o, s.store.orders.get? id = some o ∧ x = .of o (s.store.validations.get? id) := by
  obtain ⟨o, ho, rfl⟩ := Option.map_eq_some_iff.1 h
  exact ⟨o, ho, rfl⟩

/-- **Work on a report loses nothing**, wherever it ends. -/
theorem Progress.brokenOff (h : Progress id M s₀ x₀ n s) (hf : M[n]? = some f) {j : Json}
    (hj : Report.ofJson? j = some ⟨Topic.courierService, id, f⟩) :
    Progress id M s₀ x₀ n ((handle j).run w.answer s).2 := by
  obtain ⟨x, hx, hfold⟩ := h.standing
  obtain ⟨o, ho, rfl⟩ := order_of_standing? hx
  have htaken := takenIn_run (w := w) h.keyed ho f
  refine ⟨keyed_run h.keyed _, ?_, ?_, ?_⟩
  · obtain ⟨y, hy, hbetween, -⟩ := between_of_takenIn htaken
    rw [(handle_run hj).1]
    exact ⟨y, hy, fun k hk => (foldl_drop_absorbs hf hk hbetween).trans (hfold k hk)⟩
  · intro hn
    rw [(handle_run hj).1]
    rcases htaken.record with hsame | ⟨v, hv, -⟩
    · rw [hsame]
      exact h.recorded hn
    · rw [hv]
      rfl
  · obtain ⟨new, hnew, hannounced⟩ := h.announced
    obtain ⟨more, hmore, -⟩ := htaken.announced
    rw [(handle_run hj).1]
    refine ⟨new ++ more, by rw [hmore, hnew, List.append_assoc], fun k hk g hg hsuccess => ?_⟩
    obtain ⟨a, ha, hid⟩ := hannounced k hk g hg hsuccess
    exact ⟨a, List.mem_append_left _ ha, hid⟩

/-- **A report that has been handled is done with.** -/
theorem Progress.handled (h : Progress id M s₀ x₀ n s) (hf : M[n]? = some f) {j : Json}
    (hj : Report.ofJson? j = some ⟨Topic.courierService, id, f⟩) (hw : w.Plain)
    (hok : ((handle j).run w.answer s).1 = .ok ()) :
    Progress id M s₀ x₀ (n + 1) ((handle j).run w.answer s).2 := by
  have hbroken := h.brokenOff (w := w) hf hj
  obtain ⟨x, hx, hfold⟩ := h.standing
  obtain ⟨o, ho, rfl⟩ := order_of_standing? hx
  have htaken := takenIn_run (w := w) h.keyed ho f
  have hout := ok_of_handle_ok hj hw h.keyed ho hok
  refine ⟨hbroken.keyed, ?_, ?_, ?_⟩
  · obtain ⟨y, hy, hfold'⟩ := hbroken.standing
    obtain ⟨y', hy', -, hafter⟩ := between_of_takenIn htaken
    rw [← (handle_run hj).1, hy] at hy'
    obtain rfl := Option.some.inj hy'
    refine ⟨y, hy, fun k hk => ?_⟩
    rcases Nat.lt_or_eq_of_le hk with hlt | rfl
    · exact hfold' k (Nat.le_of_lt_succ hlt)
    · rw [hafter hout, ← hfold n (Nat.le_refl n)]
      have hdrop : M.drop n = f :: M.drop (n + 1) := by
        obtain ⟨hlt, rfl⟩ := List.getElem?_eq_some_iff.1 hf
        exact List.drop_eq_getElem_cons hlt
      rw [hdrop, List.foldl_cons]
  · intro _
    obtain ⟨-, v, hv, -⟩ := htaken.complete (.inr hout)
    rw [(handle_run hj).1, hv]
    rfl
  · obtain ⟨new, hnew, hannounced⟩ := h.announced
    obtain ⟨more, hmore, hupdate⟩ := htaken.announced
    rw [(handle_run hj).1]
    refine ⟨new ++ more, by rw [hmore, hnew, List.append_assoc], fun k hk g hg hsuccess => ?_⟩
    rcases Nat.lt_or_eq_of_le (Nat.le_of_lt_succ hk) with hlt | rfl
    · obtain ⟨a, ha, hid⟩ := hannounced k hlt g hg hsuccess
      exact ⟨a, List.mem_append_left _ ha, hid⟩
    · obtain rfl := Option.some.inj (hf.symm.trans hg)
      obtain ⟨out, hout⟩ := hout
      have hid : (o.after f).id = id := show o.id = id from h.keyed.order ho
      exact ⟨_, List.mem_append_right _ (hupdate out hout hsuccess), hid, rfl⟩

/-- **Every delivery makes progress**, or at least loses none. -/
theorem progress_of_redelivered (hkeyed : s₀.store.Keyed) (hx₀ : standing? id s₀ = some x₀)
    (h : Redelivered id M s₀ n s) : Progress id M s₀ x₀ n s := by
  induction h with
  | start =>
    refine ⟨hkeyed, ⟨x₀, hx₀, fun k hk => ?_⟩, fun h => absurd h (Nat.lt_irrefl 0), [],
      (List.append_nil _).symm, fun k hk => absurd hk (Nat.not_lt_zero k)⟩
    obtain rfl := Nat.le_zero.1 hk
    rfl
  | handled _ hf hj hw hok ih => exact ih.handled hf hj hw hok
  | brokenOff _ hf hj ih => exact ih.brokenOff hf hj
  | again _ hk ih =>
    obtain ⟨x, hx, hfold⟩ := ih.standing
    obtain ⟨new, hnew, hannounced⟩ := ih.announced
    exact ⟨ih.keyed, ⟨x, hx, fun k' hk' => hfold k' (Nat.le_trans hk' hk)⟩,
      fun h => ih.recorded (Nat.lt_of_lt_of_le h hk), new, hnew,
      fun k' hk' => hannounced k' (Nat.lt_of_lt_of_le hk' hk)⟩

/-! ## One pass without failures -/

/-- Every call works. -/
def World.Works (w : World) : Prop := ∀ c, (w c).fate = .works

theorem World.Works.not_gives (h : w.Works) (e : ServiceError) : ¬ w.Gives e := by
  rintro ⟨c, hc | hc⟩
  · cases (h c).symm.trans hc
  · cases (h c).symm.trans hc

theorem World.Works.plain (h : w.Works) : w.Plain := fun e he => absurd he (h.not_gives e)

/-- A report of a stored order is handled if every call works. -/
theorem handle_ok_of_works {j : Json}
    (hj : Report.ofJson? j = some ⟨Topic.courierService, id, f⟩) (hw : w.Works)
    (hkeyed : s.store.Keyed) (ho : s.store.orders.get? id = some o) :
    ((handle j).run w.answer s).1 = .ok () := by
  refine (handle_run hj).2.2 (.inl ?_)
  have hfailure := (takenIn_run (w := w) hkeyed ho f).failure
  cases hresult : ((validate Topic.courierService id f).run w.answer s).1 with
  | ok out => exact ⟨out, rfl⟩
  | error e => exact absurd (hfailure e hresult) (hw.not_gives e)

/-- Delivery goes on over a report for which every call works. -/
theorem Redelivered.handled_of_works (h : Redelivered id M s₀ n s) (hkeyed : s₀.store.Keyed)
    (hx₀ : standing? id s₀ = some x₀) (hf : M[n]? = some f) {j : Json}
    (hj : Report.ofJson? j = some ⟨Topic.courierService, id, f⟩) (hw : w.Works) :
    Redelivered id M s₀ (n + 1) ((handle j).run w.answer s).2 := by
  have hprogress := progress_of_redelivered hkeyed hx₀ h
  obtain ⟨x, hx, -⟩ := hprogress.standing
  obtain ⟨o, ho, -⟩ := order_of_standing? hx
  exact h.handled hf hj hw.plain (handle_ok_of_works hj hw hprogress.keyed ho)

/-- **One pass** over messages, each handled in a world of its own. -/
def onePass (pass : List (Json × World)) (s : State) : State :=
  pass.foldl (fun s d => ((handle d.1).run d.2.answer s).2) s

/-- The messages are reports of the courier service about an order. -/
def Reads (id : Uuid) (M : List ValidationFact) (pass : List (Json × World)) : Prop :=
  pass.map (fun d => Report.ofJson? d.1) = M.map fun f => some ⟨Topic.courierService, id, f⟩

/-- A pass without failures is a way to deliver. -/
theorem redelivered_onePass {pass : List (Json × World)} (hkeyed : s₀.store.Keyed)
    (hx₀ : standing? id s₀ = some x₀) (hreads : Reads id M pass) (hworks : ∀ d ∈ pass, d.2.Works)
    (n : Nat) (hn : n ≤ M.length) : Redelivered id M s₀ n (onePass (pass.take n) s₀) := by
  have hlength : pass.length = M.length := by simpa using congrArg List.length hreads
  induction n with
  | zero => exact .start
  | succ n ih =>
    have hlt : n < pass.length := hlength ▸ hn
    have hread := congrArg (·[n]?) hreads
    simp only [List.getElem?_map, List.getElem?_eq_getElem hlt,
      List.getElem?_eq_getElem (show n < M.length from hn), Option.map_some,
      Option.some.injEq] at hread
    rw [List.take_add_one, List.getElem?_eq_getElem hlt, Option.toList_some, onePass,
      List.foldl_append]
    exact (ih (Nat.le_of_succ_le hn)).handled_of_works hkeyed hx₀ (List.getElem?_eq_getElem hn)
      hread (hworks _ (List.getElem_mem hlt))

/-! ## The main statement -/

/-- What is found of an order with a standing that has a record. -/
theorem find_of_standing? {x : Standing} (hx : standing? id s = some x)
    (hrecord : (s.store.validations.get? id).isSome = true) :
    ∃ o v, s.store.findOrder id = .ok o ∧ s.store.findValidation id = some v
      ∧ x = .of o (some v) := by
  obtain ⟨o, ho, rfl⟩ := order_of_standing? hx
  obtain ⟨v, hv⟩ := Option.isSome_iff_exists.1 hrecord
  refine ⟨o, v, ?_, hv, by rw [hv]⟩
  rw [OrderStore.findOrder, ho]

/-- An order that is not refused after reports is approved by the last one. -/
theorem isSuccessful_getLast {x : Standing} (hM : M ≠ [])
    (h : (M.foldl Standing.after x).refusal = none) : (M.getLast hM).isSuccessful = true := by
  rw [← List.dropLast_concat_getLast hM, List.foldl_append] at h
  have hlast : (if (M.getLast hM).isSuccessful then none
    else some ((M.getLast hM).error.getD ValidationFact.defaultError)) = none := h
  split at hlast
  · assumption
  · cases hlast

/-- **Redelivery is not seen in the end.** Let reports of the courier service about
a stored order be delivered, with failures of any kind anywhere, going back any
number of times, until the last has been handled. Then the order and its record
say what they say after one pass without failures; and if the record is valid, the
order has been announced as updated. -/
theorem redelivery_effect {id : Uuid} {M : List ValidationFact} {s₀ s : State} {o₀ : Order}
    {pass : List (Json × World)} (hkeyed : s₀.store.Keyed)
    (ho₀ : s₀.store.orders.get? id = some o₀) (hM : M ≠ [])
    (hs : Redelivered id M s₀ M.length s) (hreads : Reads id M pass)
    (hworks : ∀ d ∈ pass, d.2.Works) :
    ∃ o v o' v',
      s.store.findOrder id = .ok o ∧ s.store.findValidation id = some v
        ∧ (onePass pass s₀).store.findOrder id = .ok o'
        ∧ (onePass pass s₀).store.findValidation id = some v'
        ∧ o.status = o'.status ∧ o.courierId = o'.courierId
        ∧ v.courierError = v'.courierError
        ∧ v.courierValidatedAt.isSome = v'.courierValidatedAt.isSome
        ∧ ∃ new, s.announced = s₀.announced ++ new
          ∧ (v.isValid = true → ∃ a ∈ new, a.order.id = id ∧ a.event = Topic.orderUpdated) := by
  have hx₀ : standing? id s₀ = some (.of o₀ (s₀.store.validations.get? id)) := by
    rw [standing?, ho₀, Option.map_some]
  have hlength : pass.length = M.length := by simpa using congrArg List.length hreads
  have hpass := redelivered_onePass hkeyed hx₀ hreads hworks M.length (Nat.le_refl _)
  rw [← hlength, List.take_length, hlength] at hpass
  have h := progress_of_redelivered hkeyed hx₀ hs
  have h' := progress_of_redelivered hkeyed hx₀ hpass
  have hpos : 0 < M.length := List.length_pos_iff.2 hM
  obtain ⟨x, hx, hfold⟩ := h.standing
  obtain ⟨x', hx', hfold'⟩ := h'.standing
  -- nothing remains, so both stand where all of the reports lead
  have hend : ∀ {y : Standing}, (∀ k ≤ M.length, (M.drop k).foldl Standing.after y
      = M.foldl Standing.after (.of o₀ (s₀.store.validations.get? id))) →
      y = M.foldl Standing.after (.of o₀ (s₀.store.validations.get? id)) := by
    intro y hy
    rw [← hy M.length (Nat.le_refl _), List.drop_length, List.foldl_nil]
  obtain ⟨o, v, ho, hv, hxo⟩ := find_of_standing? hx (h.recorded hpos)
  obtain ⟨o', v', ho', hv', hxo'⟩ := find_of_standing? hx' (h'.recorded hpos)
  have hsame : Standing.of o (some v) = Standing.of o' (some v') := by
    rw [← hxo, ← hxo', hend hfold, hend hfold']
  obtain ⟨new, hnew, hannounced⟩ := h.announced
  refine ⟨o, v, o', v', ho, hv, ho', hv', congrArg Standing.status hsame,
    congrArg Standing.courierId hsame, congrArg Standing.refusal hsame,
    congrArg Standing.approved hsame, new, hnew, fun hvalid => ?_⟩
  have hrefusal : (M.foldl Standing.after (.of o₀ (s₀.store.validations.get? id))).refusal
      = none := by
    rw [← hend hfold, hxo]
    unfold OrderValidation.isValid at hvalid
    rw [Bool.and_eq_true] at hvalid
    exact Option.isNone_iff_eq_none.1 hvalid.2
  refine hannounced (M.length - 1) (Nat.sub_lt hpos Nat.one_pos) _ ?_ (isSuccessful_getLast hM hrefusal)
  rw [← List.getLast?_eq_getElem?, List.getLast?_eq_some_getLast hM]

/-- An order that waits for a courier. -/
def waiting : State := { store := OrderStore.empty.insertOrder (.create ⟨7⟩ "+4912345" .epoch) }

/-- A world in which every call works. -/
def calm : World := fun _ => ⟨.epoch, ⟨0⟩, .works⟩

/-- A world in which every announcement fails. -/
def silent : World
  | .publish _ _ => ⟨.epoch, ⟨0⟩, .refused (.transport "unreachable")⟩
  | _ => ⟨.epoch, ⟨0⟩, .works⟩

/-- The message of a report about the order that waits. -/
def aboutWaiting (f : ValidationFact) : Json :=
  (Report.message ⟨Topic.courierService, ⟨7⟩, f⟩).toJson

/-- The approval cannot be announced, and both reports are delivered again. -/
theorem redelivery_effect_silent :
    let M : List ValidationFact := [⟨false, none, none⟩, ⟨true, some ⟨1⟩, none⟩]
    let pass := M.map fun f => (aboutWaiting f, calm)
    let handling := fun f w s => ((handle (aboutWaiting f)).run (World.answer w) s).2
    let s := handling M[1] calm (handling M[0] calm (handling M[1] silent
      (handling M[0] calm waiting)))
    waiting.store.Keyed ∧ M ≠ [] ∧ Redelivered ⟨7⟩ M waiting M.length s ∧ Reads ⟨7⟩ M pass
      ∧ (∀ d ∈ pass, d.2.Works)
      ∧ ∃ o o', s.store.findOrder ⟨7⟩ = .ok o ∧ (onePass pass waiting).store.findOrder ⟨7⟩ = .ok o'
        ∧ o.status = o'.status ∧ o.courierId = o'.courierId := by
  intro M pass handling s
  have hkeyed : waiting.store.Keyed := OrderStore.Keyed.empty.insertOrder _
  have hcalm : calm.Works := fun _ => rfl
  have hread : ∀ f, Report.ofJson? (aboutWaiting f) = some ⟨Topic.courierService, ⟨7⟩, f⟩ :=
    fun f => Report.ofJson?_message _
  have hreads : Reads ⟨7⟩ M pass := by
    simp [Reads, pass, hread]
  have hworks : ∀ d ∈ pass, d.2.Works := by
    intro d hd
    obtain ⟨f, -, rfl⟩ := List.mem_map.1 hd
    exact hcalm
  have hs : Redelivered ⟨7⟩ M waiting M.length s := by
    have hx₀ : standing? ⟨7⟩ waiting = some ⟨.pending, none, false, none⟩ := rfl
    have hfirst := Redelivered.start.handled_of_works hkeyed hx₀ (n := 0) (M := M) rfl
      (hread M[0]) hcalm
    have hagain := (hfirst.brokenOff (w := silent) rfl (hread M[1])).again (Nat.zero_le 1)
    exact (hagain.handled_of_works hkeyed hx₀ rfl (hread M[0]) hcalm).handled_of_works hkeyed hx₀
      rfl (hread M[1]) hcalm
  obtain ⟨o, v, o', v', ho, -, ho', -, hstatus, hcourier, -⟩ :=
    redelivery_effect hkeyed (Table.get?_put_self _ _ _) (by simp [M]) hs hreads hworks
  exact ⟨hkeyed, by simp [M], hs, hreads, hworks, o, o', ho, ho', hstatus, hcourier⟩

end CourierDispatch.OrderService
