import CourierDispatch.Proofs.Order.Versions
import Mathlib.Data.List.Nodup

/-!
# Records under many reports at once

Reports about any orders are taken in side by side, their calls falling between
one another in any way, with clocks that show any time. Each report is taken in by
one of its calls, or not at all: by the one that stores the record, or by the one
that reads the record if the report leaves it as it is. The record of every order
is what one gets by applying the reports of those calls alone, one after another in
the order of the calls (`records_linearizable`).

What makes this true is that a token tells the version that is there
(`Sound.replaced`). A new version is stored only in place of the one that was read,
and a first version only where there is none, so a version says what its report
makes of the version before it. The reports that leave a record as it is do not take
part in this; they are in their place at the moment at which they read.
-/

namespace CourierDispatch.OrderService

variable {τ : Type} [DecidableEq τ]

/-! ## Reports applied one after another -/

/-- **The work by which reports have been taken in**, in the order of the calls that
did it. -/
def taken (report : τ → Report) (j : Notes τ) : List τ :=
  j.made.filterMap fun m => if m.call.takesIn (report m.task) m.answer then some m.task else none

/-- **The record of an order after reports**, applied one after another with their
readings of the clock. -/
def applied (report : τ → Report) (stamp : τ → Instant) (id : Uuid) (ts : List τ) :
    Option OrderValidation :=
  (ts.filter fun t => (report t).orderId = id).foldl
    (fun x t => some ((report t).next x (stamp t))) none

/-- The reading of the clock by a piece of work. -/
def stamp (j : Notes τ) (t : τ) : Instant :=
  ((j.log t).findSome? fun n => n.1.reading? n.2).getD default

section Applied

variable {report : τ → Report} {clockOf : τ → Instant} {j : Notes τ}

omit [DecidableEq τ] in
theorem taken_add (m : Made τ Call Answer State) (j : Notes τ) : taken report (j.add m)
    = taken report j ++ if m.call.takesIn (report m.task) m.answer then [m.task] else [] :=
  Journal.filterMap_made_add
    (fun t (n : Answered Call Answer) => n.1.takesIn (report t) n.2) m j

omit [DecidableEq τ] in
theorem applied_concat (id : Uuid) (ts : List τ) (t : τ) : applied report clockOf id (ts ++ [t])
    = if (report t).orderId = id then some ((report t).next (applied report clockOf id ts) (clockOf t))
      else applied report clockOf id ts := by
  unfold applied
  rw [List.filter_append]
  split
  · next h => simp [h, List.foldl_append]
  · next h => simp [h]

/-- What a report makes of a record depends on what the record says. -/
theorem content_next_congr (r : Report) {x y : Option OrderValidation}
    (h : x.map (·.content) = y.map (·.content)) (now : Instant) :
    (r.next x now).content = (r.next y now).content := by
  have hcontent : (x.getD (.start r.orderId now)).content = (y.getD (.start r.orderId now)).content := by
    cases x with
    | none =>
      cases y with
      | none => rfl
      | some v => cases h
    | some v =>
      cases y with
      | none => cases h
      | some v' => exact Option.some.inj h
  obtain ⟨hat, herror⟩ := Prod.mk.inj hcontent
  unfold Report.next ValidationFact.applyTo
  split
  · show (some _, none) = (some _, none)
    rw [hat]
  · show (_, some _) = (_, some _)
    rw [hat]

/-- A report that is taken in by reading leaves the record that was read as it is,
whatever the time. -/
theorem content_of_takesIn_read {r : Report} {id : Uuid} {x : Option OrderValidation}
    (h : (Call.findValidation id).takesIn r (.ok x) = true) (now : Instant) :
    ∃ v, x = some v ∧ (r.next (some v) now).content = v.content := by
  cases x with
  | none => cases h
  | some v =>
    obtain ⟨-, hsame⟩ : r.service = Topic.courierService
        ∧ v.sameState (r.next (some v) v.updatedAt) = true := by
      simpa [Call.takesIn] using h
    refine ⟨v, rfl, (OrderValidation.content_eq_iff.2 ?_).symm⟩
    exact (ValidationFact.sameState_applyTo _ _ _ _).trans hsame

/-- **Every record says what the reports make of it that were taken in.** -/
def Follows (report : τ → Report) (clockOf : τ → Instant) (j : Notes τ) : Prop :=
  ∀ id, (j.state.store.findValidation id).map (·.content)
    = (applied report clockOf id (taken report j)).map (·.content)

/-- **A call takes its report in, or leaves what the records say.** -/
theorem Follows.add {B n : Nat} {w : World} {t : τ} {k : Call} {a : Answer k} {s' : State}
    (h : Follows report clockOf j) (hsound : Sound report B n j)
    (hdoes : (report t).Does (j.log t) w j.state k a s')
    (hat : ∀ now, ⟨.clock, now⟩ ∈ j.log t → clockOf t = now) :
    Follows report clockOf (j.add ⟨t, k, a, j.state, s'⟩) := by
  intro id
  rw [taken_add]
  show (s'.store.findValidation id).map (·.content) = _
  cases hdoes with
  | leaves _ _ htakes hvalidations _ =>
    dsimp only
    rw [htakes, if_neg (by simp), List.append_nil, ← h id]
    unfold OrderStore.findValidation
    rw [hvalidations]
  | reads =>
    dsimp only
    split
    · next htakes =>
      -- The report is applied from here on, and must not change what the record says.
      rw [applied_concat]
      split
      · next hid =>
        subst hid
        obtain ⟨v, hv, hcontent⟩ := content_of_takesIn_read htakes (clockOf t)
        have hprevious := (h (report t).orderId).symm
        rw [hv] at hprevious ⊢
        rw [Option.map_some, Option.map_some, content_next_congr _ hprevious, hcontent]
      · exact h id
    · rw [List.append_nil]
      exact h id
  | @writes _ _ _ o x now hl htoken _ _ htakes hs' =>
    have hx : j.state.store.findValidation (report t).orderId = x := hsound.replaced hl htoken
    have hid : ((report t).next x now).orderId = (report t).orderId :=
      orderId_next_of _ now fun v hv => hsound.keyed.validation (hx.trans hv)
    have hnow : clockOf t = now := hat now (by rw [hl]; simp)
    dsimp only
    rw [htakes, if_pos rfl, applied_concat, hs', findValidation_writeValidation, hid]
    split
    · next hid' =>
      subst hid'
      have hprevious := h (report t).orderId
      rw [hx] at hprevious
      rw [Option.map_some, Option.map_some, ← content_next_congr _ hprevious, hnow]
      rfl
    · exact h id

end Applied

/-! ## Runs -/

namespace Course

variable {report : τ → Report} {orders : List Order} {B : Nat} {events : List (Event τ)}

/-- A store with orders about which nothing has been reported. -/
def stocked (orders : List Order) : OrderStore :=
  orders.foldl (fun s o => s.insertOrder o) .empty

theorem stocked_records (orders : List Order) : (stocked orders).Keyed
    ∧ (stocked orders).lastToken = 0 ∧ (stocked orders).validations = Table.empty := by
  unfold stocked
  induction orders using List.reverseRecOn with
  | nil => exact ⟨OrderStore.Keyed.empty, rfl, rfl⟩
  | append_singleton os o ih =>
    rw [List.foldl_append]
    exact ⟨ih.1.insertOrder o, ih.2⟩

/-- **What is known of the versions is known after any steps.** -/
theorem sound_run (report : τ → Report) (orders : List Order) (hfair : ∀ e ∈ events, e.Fair B)
    (hB : (B : Int) + events.length ≤ Instant.lastMicros) :
    Sound report B events.length (run report (stocked orders) events).state := by
  induction events using List.reverseRecOn with
  | nil =>
    obtain ⟨hkeyed, hlast, hnone⟩ := stocked_records orders
    refine ⟨hkeyed, ?_, fun v hv => (by cases hv), .nil, fun id => ?_, fun m hm => (by cases hm),
      fun m hm => (by cases hm)⟩
    · show (stocked orders).lastToken ≤ _
      rw [hlast]
      exact Int.natCast_nonneg B
    · show (stocked orders).validations.get? id = none
      rw [hnone]
      rfl
  | append_singleton es e ih =>
    rw [List.length_append, List.length_singleton] at hB ⊢
    have hes := ih (fun e he => hfair e (List.mem_append_left _ he)) (by push_cast at hB; omega)
    rcases state_run_concat report (stocked orders) es e with
      hstate | ⟨t, w, k, next, rfl, hwork, hstate⟩
    · rw [hstate]
      exact hes.mono
    · rw [hstate]
      have hw : w.Fair B := hfair _ (List.mem_append_right _ (List.mem_singleton_self _))
      have hway := Report.way_of_trail ((logged_run _ _ _).trail hwork)
      have hdoes := hway.does (s := (run report (stocked orders) es).state.state) hw.stores
        fun v hv => (hes.mem_of_read hv).2
      exact hes.add hdoes (hes.keyed.answer _ _) (hw.now_le k) (by push_cast at hB; omega)

/-- **Records say what the reports make of them that were taken in**, after any
steps. -/
theorem follows_run (hfair : ∀ e ∈ events, e.Fair B)
    (hB : (B : Int) + events.length ≤ Instant.lastMicros) {clockOf : τ → Instant}
    (hat : ∀ t now, ⟨.clock, now⟩ ∈ (run report (stocked orders) events).state.log t →
      clockOf t = now) :
    Follows report clockOf (run report (stocked orders) events).state := by
  induction events using List.reverseRecOn with
  | nil =>
    intro id
    show ((stocked orders).validations.get? id).map _ = none
    rw [(stocked_records orders).2.2]
    rfl
  | append_singleton es e ih =>
    have hlength : ((es ++ [e]).length : Int) = es.length + 1 := by simp
    have hes : ∀ e ∈ es, e.Fair B := fun e he => hfair e (List.mem_append_left _ he)
    have hB' : (B : Int) + es.length ≤ Instant.lastMicros := by omega
    rcases state_run_concat report (stocked orders) es e with
      hstate | ⟨t, w, k, next, rfl, hwork, hstate⟩
    · rw [hstate] at hat ⊢
      exact ih hes hB' hat
    · rw [hstate] at hat ⊢
      have hat' : ∀ t now, ⟨.clock, now⟩ ∈ (run report (stocked orders) es).state.log t →
          clockOf t = now := fun t now h => hat t now (Journal.log_subset_add _ _ _ h)
      have hw : w.Fair B := hfair _ (List.mem_append_right _ (List.mem_singleton_self _))
      have hsound := sound_run report orders hes hB'
      have hway := Report.way_of_trail ((logged_run _ _ _).trail hwork)
      have hdoes := hway.does (s := (run report (stocked orders) es).state.state) hw.stores
        fun v hv => (hsound.mem_of_read hv).2
      exact (ih hes hB' hat').add hsound hdoes (hat' t)

/-- How far a piece of work has come, whether or not it has begun. -/
theorem exists_way (report : τ → Report) (store : OrderStore) (events : List (Event τ)) (t : τ) :
    ∃ s, (report t).Way ((run report store events).state.log t) s
      ∧ ∀ s', (run report store events).works.get? t = some s' → s' = s := by
  have hlogged := logged_run report store events
  cases hwork : (run report store events).works.get? t with
  | none =>
    refine ⟨(report t).work, ?_, fun _ h => by cases h⟩
    rw [hlogged.idle hwork]
    exact .asking
  | some s => exact ⟨s, Report.way_of_trail (hlogged.trail hwork), fun _ h => (Option.some.inj h).symm⟩

/-- The reading of the clock is the one that the work goes by. -/
theorem stamp_eq {store : OrderStore} {t : τ} {now : Instant}
    (h : ⟨.clock, now⟩ ∈ (run report store events).state.log t) :
    stamp (run report store events).state t = now := by
  obtain ⟨s, hway, -⟩ := exists_way report store events t
  unfold stamp
  rw [hway.findSome?_reading h]
  rfl

/-- How often a piece of work has taken its report in is read off its own calls. -/
theorem count_taken (report : τ → Report) (j : Notes τ) (t : τ) :
    (taken report j).count t = (report t).takings (j.log t) :=
  Journal.count_filterMap_made
    (fun t (n : Answered Call Answer) => n.1.takesIn (report t) n.2) t j

/-- **No report is taken in twice.** -/
theorem nodup_taken (report : τ → Report) (store : OrderStore) (events : List (Event τ)) :
    (taken report (run report store events).state).Nodup := by
  rw [List.nodup_iff_count_le_one]
  intro t
  obtain ⟨s, hway, -⟩ := exists_way report store events t
  rw [count_taken]
  exact hway.takings_le_one

theorem mem_taken_iff (report : τ → Report) (j : Notes τ) (t : τ) :
    t ∈ taken report j ↔ 0 < (report t).takings (j.log t) := by
  rw [← List.count_pos_iff, count_taken]

/-- **Whether the report of a piece of work has been taken in**, by where the work
is. -/
structure Placed (report : τ → Report) (c : Course τ) (t : τ) : Prop where
  /-- Work that has not begun. -/
  unbegun : c.works.get? t = none → t ∉ taken report c.state
  /-- Work that makes a call next: past the store, it settles the order. -/
  due : ∀ k, c.due? t = some k → k ≠ .clock → (t ∈ taken report c.state ↔ k.settles = true)
  /-- Work that reads the clock next: what was read is left as it is, or not. -/
  reading : c.due? t = some .clock → (t ∈ taken report c.state ↔ ∃ x,
    ⟨.findValidation (report t).orderId, .ok x⟩ ∈ c.state.log t
      ∧ (Call.findValidation (report t).orderId).takesIn (report t) (.ok x) = true)
  /-- Work that has ended well. -/
  done : ∀ out, c.result? t = some (.ok out) →
    (t ∈ taken report c.state ↔ (report t).service = Topic.courierService)
  /-- Work that has failed: past the store, it has tried to settle the order. -/
  failed : ∀ e, c.result? t = some (.error e) →
    (t ∈ taken report c.state ↔ ∃ n ∈ c.state.log t, n.1.settles = true)

/-- What a script does next. -/
theorem works_of_due? {c : Course τ} {t : τ} {k : Call} (h : c.due? t = some k) :
    ∃ next, c.works.get? t = some (.call k next) := by
  unfold Workshop.due? at h
  split at h
  · next k' next hwork =>
    obtain rfl := Option.some.inj h
    exact ⟨next, hwork⟩
  · cases h

theorem works_of_result? {c : Course τ} {t : τ} {result : Except ServiceError Outcome}
    (h : c.result? t = some result) : c.works.get? t = some (.done result) := by
  unfold result? at h
  split at h
  · next result' hwork =>
    obtain rfl := Option.some.inj h
    exact hwork
  · cases h

/-- **Exactly the reports of the work that is past the store have been taken in.** -/
theorem placed_run (report : τ → Report) (store : OrderStore) (events : List (Event τ)) (t : τ) :
    Placed report (run report store events) t := by
  obtain ⟨s, hway, hs⟩ := exists_way report store events t
  have hidle := (logged_run report store events).idle (t := t)
  generalize run report store events = c at hway hs hidle ⊢
  have hmem := mem_taken_iff report c.state t
  refine ⟨fun h => ?_, fun k h hk => ?_, fun h => ?_, fun out h => ?_, fun e h => ?_⟩
  · rw [hmem, hidle h]
    exact Nat.lt_irrefl 0
  · obtain ⟨next, hwork⟩ := works_of_due? h
    obtain rfl := hs _ hwork
    rcases hway.before_or_past with hbefore | ⟨o, x, next', -, heq⟩ | ⟨htakings, -, _, _, _, _, -, htrail⟩
    · rw [hmem, hbefore.takings, hbefore.due k next rfl]
      simp
    · cases heq
      exact absurd rfl hk
    · rw [hmem, htakings, (trail_settle htrail).2.1 k next rfl]
      simp
  · obtain ⟨next, hwork⟩ := works_of_due? h
    obtain rfl := hs _ hwork
    rw [hmem]
    constructor
    · intro htakes
      rcases hway.before_or_past with hbefore | ⟨o, x, next', hl, -⟩ | ⟨-, -, _, _, _, _, -, htrail⟩
      · rw [hbefore.takings] at htakes
        cases htakes
      · rw [hl, takings_reading] at htakes
        refine ⟨x, by rw [hl]; simp [Report.reading], ?_⟩
        by_contra hread
        rw [if_neg hread] at htakes
        cases htakes
      · cases (trail_settle htrail).2.1 _ next rfl
    · rintro ⟨x, hx, htakes⟩
      exact List.countP_pos_iff.2 ⟨_, hx, htakes⟩
  · obtain rfl := hs _ (works_of_result? h)
    rcases hway.before_or_past with hbefore | ⟨o, x, next', -, heq⟩ | ⟨htakings, hcourier, -⟩
    · rw [hmem, hbefore.takings]
      simpa using hbefore.other out rfl
    · cases heq
    · rw [hmem, htakings]
      simpa using hcourier
  · obtain rfl := hs _ (works_of_result? h)
    rcases hway.before_or_past with hbefore | ⟨o, x, next', -, heq⟩ | ⟨htakings, -, _, _, l₁, l₂, hl, htrail⟩
    · rw [hmem, hbefore.takings]
      refine iff_of_false (Nat.lt_irrefl 0) ?_
      rintro ⟨n, hn, hsettles⟩
      rw [settles_eq_false_of_keeps (hbefore.keeps n hn)] at hsettles
      cases hsettles
    · cases heq
    · rw [hmem, htakings]
      refine iff_of_true Nat.one_pos ?_
      have hmem₂ : ∀ n ∈ l₂, n ∈ c.state.log t := fun n hn => hl ▸ List.mem_append_right l₁ hn
      rcases (trail_settle htrail).2.2 e rfl with ⟨o, ho⟩ | ⟨o, event, ho⟩
      · exact ⟨_, hmem₂ _ ho, rfl⟩
      · exact ⟨_, hmem₂ _ ho, rfl⟩

/-! ## Conflicts -/

/-- A call that reads, or that the store has refused, leaves the store and the bus. -/
theorem answer_of_keeps {w : World} (hw : w.Stores) {k : Call} {s : State}
    (h : k.keeps (w.answer k s).1 = true) : (w.answer k s).2 = s := by
  cases k with
  | findOrder id =>
    unfold World.answer answer
    rw [hw (.findOrder id) (fun _ _ => by simp)]
    rfl
  | findValidation id =>
    rw [(answer_findValidation (w := w) id).resolve_right fun h => h.1 hw]
  | clock => rfl
  | insertValidation v =>
    rcases answer_insertValidation (s := s) hw v with ⟨-, hanswer⟩ | hanswer
    · rw [hanswer] at h
      cases h
    · rw [hanswer]
  | updateValidation v token =>
    rcases answer_updateValidation (s := s) hw v token with ⟨there, -, -, hanswer⟩ | hanswer
    · rw [hanswer] at h
      cases h
    · rw [hanswer]
  | _ => cases h

/-- Settling an order does not end in a conflict of versions. -/
theorem ne_conflict_of_settles {w : World} (hw : w.Fair B) {id : Uuid} {s : State} :
    (∀ o, (w.answer (.updateOrder o) s).1 ≠ .error (.concurrentValidationConflict id))
      ∧ ∀ o event, (w.answer (.publish o event) s).1 ≠ .error (.concurrentValidationConflict id) := by
  refine ⟨fun o h => ?_, fun o event h => ?_⟩
  · unfold World.answer answer at h
    rw [hw.stores (.updateOrder o) (fun _ _ => by simp)] at h
    change (s.store.updateOrder o).1 = _ at h
    unfold OrderStore.updateOrder at h
    split at h
    · cases h
    · cases h
  · refine hw.no_conflict id ⟨.publish o event, ?_⟩
    unfold World.answer answer at h
    cases hfate : (w (.publish o event)).fate with
    | works =>
      rw [hfate] at h
      cases h
    | refused e =>
      rw [hfate] at h
      exact .inl (congrArg Fate.refused (Except.error.inj h))
    | lost e =>
      rw [hfate] at h
      exact .inr (congrArg Fate.lost (Except.error.inj h))

/-- **A conflict comes before anything has been changed**: the work that fails with
it has not been taken in, and each of its calls has left the store and the bus as
they were. -/
theorem conflict_run (hfair : ∀ e ∈ events, e.Fair B) {t : τ} {id : Uuid}
    (hconflict : (run report (stocked orders) events).result? t
      = some (.error (.concurrentValidationConflict id))) :
    t ∉ taken report (run report (stocked orders) events).state
      ∧ ∀ m ∈ (run report (stocked orders) events).made, m.task = t →
        m.after = m.before ∧ m.call.settles = false := by
  have hanswered : ∀ m ∈ (run report (stocked orders) events).made, _ :=
    fun m hm => exists_event_of_mem_made hm
  obtain ⟨s, hway, hs⟩ := exists_way report (stocked orders) events t
  generalize run report (stocked orders) events = c at *
  obtain rfl := hs _ (works_of_result? hconflict)
  rcases hway.before_or_past with hbefore | ⟨o, x, next, -, heq⟩ | ⟨-, -, _, _, l₁, l₂, hl, htrail⟩
  · refine ⟨?_, fun m hm htask => ?_⟩
    · rw [mem_taken_iff, hbefore.takings]
      exact Nat.lt_irrefl 0
    · have hkeeps := hbefore.keeps _ (Journal.mem_log.2 ⟨m, hm, htask, rfl⟩)
      obtain ⟨w, hevent, hanswer, hafter⟩ := hanswered m hm
      have hw : w.Fair B := hfair _ hevent
      refine ⟨?_, settles_eq_false_of_keeps hkeeps⟩
      rw [← hafter]
      refine answer_of_keeps hw.stores ?_
      rw [hanswer]
      exact hkeeps
  · cases heq
  · -- Past the store only the calls that settle the order can fail.
    exfalso
    have hgiven : ∀ n ∈ l₂, ∃ w s, World.Fair B w ∧ (w.answer n.1 s).1 = n.2 := by
      intro n hn
      obtain ⟨m, hm, -, rfl⟩ :=
        Journal.mem_log.1 (show n ∈ c.state.log t from hl ▸ List.mem_append_right l₁ hn)
      obtain ⟨w, hevent, hanswer, -⟩ := hanswered m hm
      exact ⟨w, m.before, hfair _ hevent, hanswer⟩
    rcases (trail_settle htrail).2.2 _ rfl with ⟨o, ho⟩ | ⟨o, event, ho⟩
    · obtain ⟨w, s, hw, hanswer⟩ := hgiven _ ho
      exact (ne_conflict_of_settles hw).1 o hanswer
    · obtain ⟨w, s, hw, hanswer⟩ := hgiven _ ho
      exact (ne_conflict_of_settles hw).2 o event hanswer

/-! ## The whole of it -/

/-- **Records under many reports at once** are as they would be if the reports came
one after another. -/
structure Linearized (report : τ → Report) (c : Course τ) : Prop where
  /-- Each version that is stored has a later token than those before. -/
  increasing : (versions c.state).Pairwise (·.updatedAt < ·.updatedAt)
  /-- Each version was computed from the one that it replaced. -/
  computed : ∀ m ∈ c.made, ∀ v, m.call.stored? m.answer = some v →
    Computed (report m.task) (c.state.log m.task) m v
  /-- A record is its last version. -/
  current : ∀ id, c.record? id = lastVersion? id (versions c.state)
  /-- It says what the reports make of it that were taken in, one after another. -/
  records : ∀ id, (c.record? id).map (·.content)
    = (applied report (stamp c.state) id (taken report c.state)).map (·.content)
  /-- No report is taken in twice. -/
  once : (taken report c.state).Nodup
  /-- The reports that are taken in are those of the work that is past the store. -/
  placed : ∀ t, Placed report c t
  /-- Work that fails with a conflict has changed nothing. -/
  conflicts : ∀ t id, c.result? t = some (.error (.concurrentValidationConflict id)) →
    t ∉ taken report c.state
      ∧ ∀ m ∈ c.made, m.task = t → m.after = m.before ∧ m.call.settles = false

/-- **Reports taken in side by side**, whatever the orders, the clocks and the order
of the calls, as long as the clocks stay away from the last instant. -/
theorem records_linearizable (report : τ → Report) (orders : List Order)
    (events : List (Event τ)) (hfair : ∀ e ∈ events, e.Fair B)
    (hB : (B : Int) + events.length ≤ Instant.lastMicros) :
    Linearized report (run report (stocked orders) events) :=
  have hsound := sound_run report orders hfair hB
  { increasing := hsound.increasing
    computed := hsound.computed
    current := hsound.current
    records := follows_run hfair hB fun _ _ h => stamp_eq h
    once := nodup_taken _ _ _
    placed := placed_run _ _ _
    conflicts := fun _ _ h => conflict_run hfair h }

/-- Two first reports about one order, each of which reads before the other has
stored its version: only one of them is taken in. -/
theorem records_linearizable_race :
    let world : World := fun _ => ⟨.epoch, default, .works⟩
    let report : Bool → Report := fun t => ⟨Topic.courierService, ⟨7⟩, ⟨t, some ⟨1⟩, none⟩⟩
    let events : List (Event Bool) := [.begin true, .begin false, .call true world,
      .call false world, .call true world, .call false world, .call true world, .call false world,
      .call true world, .call false world]
    let c := run report (stocked [.create ⟨7⟩ "+4912345" .epoch]) events
    (∀ e ∈ events, e.Fair 0) ∧ ((0 : Nat) : Int) + events.length ≤ Instant.lastMicros
      ∧ taken report c.state = [true] ∧ Linearized report c := by
  intro world report events c
  have hworld : world.Fair 0 := by
    refine ⟨fun _ _ => rfl, fun _ => (by decide), fun id h => ?_⟩
    obtain ⟨k, h | h⟩ := h
    · cases h
    · cases h
  have hfair : ∀ e ∈ events, e.Fair 0 := by
    intro e he
    simp only [events, List.mem_cons, List.not_mem_nil, or_false] at he
    rcases he with rfl | rfl | rfl | rfl | rfl | rfl | rfl | rfl | rfl | rfl
    all_goals first | exact trivial | exact hworld
  have hlength : ((0 : Nat) : Int) + events.length ≤ Instant.lastMicros := by decide
  exact ⟨hfair, hlength, by decide +kernel, records_linearizable report _ events hfair hlength⟩

end Course

end CourierDispatch.OrderService
