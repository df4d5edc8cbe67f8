import CourierDispatch.Proofs.Order.TakingIn
import Mathlib.Data.List.Pairwise

/-!
# The versions of records

Every version of a record that is stored gets a token of its own, later than all
tokens before, whatever the clocks show (`Sound.increasing`). So the token of a
version that was read says whether it is still the one that is there, and a version
that takes its place was computed from it (`Sound.computed`). The insert, which names
no token, is refused if there is a version at all.
-/

namespace CourierDispatch.OrderService

variable {τ : Type} [DecidableEq τ]

/-! ## What a call does to the records -/

section Does

variable {r : Report} {l : List (Answered Call Answer)} {w : World} {s : State}

/-- **What a call of the work on a report does to the records**, after the calls `l`
of the same work: it leaves them, reads the one of the order, or writes a version
that was computed from what had been read. -/
inductive Report.Does (r : Report) (l : List (Answered Call Answer)) (w : World) (s : State) :
    (k : Call) → Answer k → State → Prop where
  /-- The records stay. -/
  | leaves {k : Call} {a : Answer k} {s' : State} (hstored : k.stored? a = none)
      (hread : k.read? a = none) (htakes : k.takesIn r a = false)
      (hvalidations : s'.store.validations = s.store.validations)
      (hlast : s'.store.lastToken = s.store.lastToken) : Does r l w s k a s'
  /-- The record is read. -/
  | reads : Does r l w s (.findValidation r.orderId) (.ok (s.store.findValidation r.orderId)) s
  /-- A version is written, if the record that is there has the token that was
  read. -/
  | writes {k : Call} {a : Answer k} {s' : State} {o : Order} {x : Option OrderValidation}
      {now : Instant} (hl : l = r.reading o x ++ [⟨.clock, now⟩])
      (htoken : (s.store.findValidation r.orderId).map (·.updatedAt) = x.map (·.updatedAt))
      (hstored : k.stored? a = some (s.store.writeValidation (w k).now (r.next x now)).1)
      (hread : k.read? a = none) (htakes : k.takesIn r a = true)
      (hs' : s'.store = (s.store.writeValidation (w k).now (r.next x now)).2) : Does r l w s k a s'

/-- A first version is written if there is none, and refused otherwise. -/
theorem answer_insertValidation (hw : w.Stores) (next : OrderValidation) :
    (s.store.validations.get? next.orderId = none
        ∧ w.answer (.insertValidation next) s
          = (.ok (s.store.writeValidation (w (.insertValidation next)).now next).1,
            wrote w (.insertValidation next) next s))
      ∨ w.answer (.insertValidation next) s
        = (.error (.concurrentValidationConflict next.orderId), s) := by
  unfold World.answer answer
  rw [hw (.insertValidation next) (fun _ _ => by simp)]
  unfold Fate.apply OrderStore.insertValidation wrote
  dsimp only
  cases hget : s.store.validations.get? next.orderId with
  | none => exact .inl ⟨rfl, rfl⟩
  | some there => exact .inr rfl

/-- A new version is written if the one that is there has the token that was read,
and refused otherwise. -/
theorem answer_updateValidation (hw : w.Stores) (next : OrderValidation) (token : Instant) :
    (∃ there, s.store.validations.get? next.orderId = some there ∧ there.updatedAt = token
        ∧ w.answer (.updateValidation next token) s
          = (.ok (s.store.writeValidation (w (.updateValidation next token)).now next).1,
            wrote w (.updateValidation next token) next s))
      ∨ w.answer (.updateValidation next token) s
        = (.error (.concurrentValidationConflict next.orderId), s) := by
  unfold World.answer answer
  rw [hw (.updateValidation next token) (fun _ _ => by simp)]
  unfold Fate.apply OrderStore.updateValidation wrote
  dsimp only
  cases hget : s.store.validations.get? next.orderId with
  | none => exact .inr rfl
  | some there =>
    dsimp only
    by_cases htoken : there.updatedAt = token
    · rw [if_neg (not_not.2 htoken)]
      exact .inl ⟨there, rfl, htoken, rfl⟩
    · rw [if_pos htoken]
      exact .inr rfl

/-- Storing or announcing an order leaves the records. -/
theorem records_answer_of_settles {k : Call} (h : k.settles = true) :
    (w.answer k s).2.store.validations = s.store.validations
      ∧ (w.answer k s).2.store.lastToken = s.store.lastToken := by
  cases k with
  | updateOrder o =>
    rcases store_answer (w (.updateOrder o)) (.updateOrder o) s with heq | heq
    · unfold World.answer
      rw [heq]
      exact ⟨rfl, rfl⟩
    · unfold World.answer
      rw [heq]
      show (s.store.updateOrder o).2.validations = _ ∧ (s.store.updateOrder o).2.lastToken = _
      unfold OrderStore.updateOrder
      split <;> exact ⟨rfl, rfl⟩
  | publish o event =>
    rcases store_answer (w (.publish o event)) (.publish o event) s with heq | heq
    · unfold World.answer
      rw [heq]
      exact ⟨rfl, rfl⟩
    · unfold World.answer
      rw [heq]
      exact ⟨rfl, rfl⟩
  | _ => cases h

theorem orderId_next_of (r : Report) {x : Option OrderValidation} (now : Instant)
    (hx : ∀ v, x = some v → v.orderId = r.orderId) : (r.next x now).orderId = r.orderId := by
  unfold Report.next
  rw [ValidationFact.orderId_applyTo]
  cases x with
  | none => rfl
  | some v => exact hx v rfl

/-- **Every call of the work on a report does one of these things**, if the record
that was read is of its order. -/
theorem Report.Way.does {k : Call} {next : Answer k → Work (Except ServiceError Outcome)}
    (h : r.Way l (.call k next)) (hw : w.Stores)
    (hread : ∀ v, ⟨.findValidation r.orderId, .ok (some v)⟩ ∈ l → v.orderId = r.orderId) :
    r.Does l w s k (w.answer k s).1 (w.answer k s).2 := by
  rcases h.due rfl with rfl | rfl | rfl | hk | ⟨o, now, hl, rfl⟩ | ⟨o, v, now, hl, rfl⟩
  · have hanswer : w.answer (.findOrder r.orderId) s = (s.store.findOrder r.orderId, s) := by
      unfold World.answer answer
      rw [hw (.findOrder r.orderId) (fun _ _ => by simp)]
      rfl
    rw [hanswer]
    exact .leaves rfl rfl rfl rfl rfl
  · have hanswer := (answer_findValidation (w := w) (s := s) r.orderId).resolve_right fun h => h.1 hw
    rw [hanswer]
    exact .reads
  · exact .leaves rfl rfl rfl rfl rfl
  · obtain ⟨hvalidations, hlast⟩ := records_answer_of_settles (w := w) (s := s) hk
    refine .leaves ?_ ?_ (takesIn_of_settles hk r _) hvalidations hlast
    · cases k with
      | updateOrder o => rfl
      | publish o event => rfl
      | _ => cases hk
    · cases k with
      | updateOrder o => rfl
      | publish o event => rfl
      | _ => cases hk
  · rcases answer_insertValidation (s := s) hw (r.next none now) with ⟨hnone, hanswer⟩ | hanswer
    · rw [hanswer]
      rw [orderId_next_of r now (by simp)] at hnone
      refine .writes hl ?_ rfl rfl rfl rfl
      show (s.store.validations.get? r.orderId).map (·.updatedAt) = none
      rw [hnone]
      rfl
    · rw [hanswer]
      exact .leaves rfl rfl rfl rfl rfl
  · rcases answer_updateValidation (s := s) hw (r.next (some v) now) v.updatedAt with
      ⟨there, hthere, htoken, hanswer⟩ | hanswer
    · rw [hanswer]
      have hv : v.orderId = r.orderId := hread v (by rw [hl]; simp [Report.reading])
      rw [orderId_next_of r now (fun v' h => Option.some.inj h ▸ hv)] at hthere
      refine .writes hl ?_ rfl rfl rfl rfl
      show (s.store.validations.get? r.orderId).map (·.updatedAt) = some v.updatedAt
      rw [hthere, Option.map_some, htoken]
    · rw [hanswer]
      exact .leaves rfl rfl rfl rfl rfl

end Does

/-! ## What is known of the versions -/

/-- The notes of a course. -/
abbrev Notes (τ : Type) := Journal τ Call Answer State

/-- The versions of records that were stored, first stored first. -/
def versions (j : Notes τ) : List OrderValidation := j.made.filterMap fun m => m.call.stored? m.answer

/-- The last version of the record of an order. -/
def lastVersion? (id : Uuid) (vs : List OrderValidation) : Option OrderValidation :=
  (vs.filter (·.orderId = id)).getLast?

omit [DecidableEq τ] in
theorem versions_add (m : Made τ Call Answer State) (j : Notes τ) :
    versions (j.add m) = versions j ++ (m.call.stored? m.answer).toList := by
  unfold versions Journal.add
  rw [List.filterMap_append]
  cases hm : m.call.stored? m.answer with
  | none => simp [hm]
  | some v => simp [hm]

theorem lastVersion?_concat (id : Uuid) (vs : List OrderValidation) (v : OrderValidation) :
    lastVersion? id (vs ++ [v]) = if v.orderId = id then some v else lastVersion? id vs := by
  unfold lastVersion?
  rw [List.filter_append]
  split
  · next h => simp [h]
  · next h => simp [h]

theorem mem_of_lastVersion? {id : Uuid} {vs : List OrderValidation} {v : OrderValidation}
    (h : lastVersion? id vs = some v) : v ∈ vs :=
  (List.mem_filter.1 (List.mem_of_getLast? h)).1

/-- **A version was computed from the one that it replaced**: from what the call has
found in its place, which the same work had read before, by the report and the
reading of the clock of that work. -/
structure Computed (r : Report) (l : List (Answered Call Answer)) (m : Made τ Call Answer State)
    (v : OrderValidation) : Prop where
  /-- It is of the order that is reported about. -/
  order : v.orderId = r.orderId
  /-- What it replaces has been read. -/
  read : ⟨.findValidation r.orderId, .ok (m.before.store.findValidation r.orderId)⟩ ∈ l
  /-- It says what the report makes of that. -/
  result : ∃ now, ⟨.clock, now⟩ ∈ l
    ∧ v.sameState (r.next (m.before.store.findValidation r.orderId) now) = true
  /-- It stands in its place. -/
  replaces : m.after.store.findValidation r.orderId = some v

omit [DecidableEq τ] in
theorem Computed.mono {r : Report} {l l' : List (Answered Call Answer)}
    {m : Made τ Call Answer State} {v : OrderValidation} (h : Computed r l m v) (hl : l ⊆ l') :
    Computed r l' m v := by
  obtain ⟨now, hnow, hsame⟩ := h.result
  exact ⟨h.order, hl h.read, ⟨now, hl hnow, hsame⟩, h.replaces⟩

/-- **What is known of the versions** after at most `n` steps, if no clock shows more
than `B`. -/
structure Sound (report : τ → Report) (B n : Nat) (j : Notes τ) : Prop where
  /-- Records stand under their orders. -/
  keyed : j.state.store.Keyed
  /-- The last token is not too late. -/
  bounded : j.state.store.lastToken ≤ B + n
  /-- No token is later than the last one. -/
  issued : ∀ v ∈ versions j, v.updatedAt.micros ≤ j.state.store.lastToken
  /-- Each token is later than those before. -/
  increasing : (versions j).Pairwise (·.updatedAt < ·.updatedAt)
  /-- A record is its last version. -/
  current : ∀ id, j.state.store.findValidation id = lastVersion? id (versions j)
  /-- What was read is a version. -/
  reads : ∀ m ∈ j.made, ∀ v, m.call.read? m.answer = some (some v) →
    v ∈ versions j ∧ v.orderId = (report m.task).orderId
  /-- Every version was computed from the one that it replaced. -/
  computed : ∀ m ∈ j.made, ∀ v, m.call.stored? m.answer = some v →
    Computed (report m.task) (j.log m.task) m v

namespace Sound

variable {report : τ → Report} {B n : Nat} {j : Notes τ} {w : World}

theorem mono (h : Sound report B n j) : Sound report B (n + 1) j :=
  { h with bounded := Int.le_trans h.bounded (by omega) }

omit [DecidableEq τ] in
/-- Versions with the same token are the same. -/
theorem eq_of_updatedAt_eq (h : (versions j).Pairwise (·.updatedAt < ·.updatedAt))
    {v v' : OrderValidation} (hv : v ∈ versions j) (hv' : v' ∈ versions j)
    (htoken : v.updatedAt = v'.updatedAt) : v = v' := by
  have hne : (versions j).Pairwise (·.updatedAt ≠ ·.updatedAt) := h.imp Instant.ne_of_lt
  have : Std.Symm fun a b : OrderValidation => a.updatedAt ≠ b.updatedAt := ⟨fun _ _ h => h.symm⟩
  by_contra hdiffer
  exact hne.forall hv hv' hdiffer htoken

/-- What a report has read of the record of its order is a version of it. -/
theorem mem_of_read (h : Sound report B n j) {t : τ} {v : OrderValidation} {id : Uuid}
    (hread : ⟨.findValidation id, .ok (some v)⟩ ∈ j.log t) :
    v ∈ versions j ∧ v.orderId = (report t).orderId := by
  obtain ⟨m, hm, rfl, heq⟩ := Journal.mem_log.1 hread
  refine h.reads m hm v ?_
  have hcall : m.call = .findValidation id := congrArg Sigma.fst heq
  obtain ⟨t, k, a, before, after⟩ := m
  subst hcall
  obtain rfl := eq_of_heq (Sigma.mk.inj heq).2
  rfl

/-- **A token says which version is there**: a record that has the token that was
read is the one that was read. -/
theorem replaced (h : Sound report B n j) {t : τ} {o : Order} {x : Option OrderValidation}
    {now : Instant} (hl : j.log t = (report t).reading o x ++ [⟨.clock, now⟩])
    (htoken : (j.state.store.findValidation (report t).orderId).map (·.updatedAt)
      = x.map (·.updatedAt)) : j.state.store.findValidation (report t).orderId = x := by
  cases x with
  | none => exact Option.map_eq_none_iff.1 htoken
  | some v =>
    obtain ⟨there, hthere, heq⟩ := Option.map_eq_some_iff.1 htoken
    have hread : (⟨.findValidation (report t).orderId, .ok (some v)⟩ : Answered Call Answer)
        ∈ j.log t := by
      rw [hl]
      simp [Report.reading]
    have hv : v ∈ versions j := (h.mem_of_read hread).1
    have hlast : lastVersion? (report t).orderId (versions j) = some there := by
      rw [← h.current, hthere]
    -- Both are versions that were stored, and no two of these have one token.
    rw [hthere, eq_of_updatedAt_eq h.increasing (mem_of_lastVersion? hlast) hv heq]

/-- A call that stores nothing leaves what is known of the versions. -/
theorem add_of_keeps (h : Sound report B n j) {t : τ} {k : Call} {a : Answer k} {s' : State}
    (hkeyed : s'.store.Keyed) (hstored : k.stored? a = none)
    (hvalidations : s'.store.validations = j.state.store.validations)
    (hlast : s'.store.lastToken = j.state.store.lastToken)
    (hread : ∀ v, k.read? a = some (some v) → v ∈ versions j ∧ v.orderId = (report t).orderId) :
    Sound report B (n + 1) (j.add ⟨t, k, a, j.state, s'⟩) := by
  have hversions : versions (j.add ⟨t, k, a, j.state, s'⟩) = versions j := by
    rw [versions_add]
    show versions j ++ (k.stored? a).toList = versions j
    rw [hstored]
    exact List.append_nil _
  refine ⟨hkeyed, ?_, ?_, ?_, fun id => ?_, ?_, ?_⟩
  · exact Int.le_trans (Int.le_of_eq hlast) h.mono.bounded
  · rw [hversions]
    exact fun v hv => Int.le_trans (h.issued v hv) (Int.le_of_eq hlast.symm)
  · rw [hversions]
    exact h.increasing
  · rw [hversions, ← h.current id]
    show s'.store.validations.get? id = _
    rw [hvalidations]
    rfl
  · intro m hm v hv
    rw [hversions]
    rcases List.mem_append.1 hm with hm | hm
    · exact h.reads m hm v hv
    · obtain rfl := List.mem_singleton.1 hm
      exact hread v hv
  · intro m hm v hv
    rcases List.mem_append.1 hm with hm | hm
    · exact (h.computed m hm v hv).mono (Journal.log_subset_add _ _ _)
    · obtain rfl := List.mem_singleton.1 hm
      change k.stored? a = some v at hv
      rw [hstored] at hv
      cases hv

/-- A call that stores a version adds it to what is known of the versions. -/
theorem add_of_stores (h : Sound report B n j) {t : τ} {k : Call} {a : Answer k} {s' : State}
    {v : OrderValidation} (hkeyed : s'.store.Keyed) (hstored : k.stored? a = some v)
    (hread : k.read? a = none) (hlast : s'.store.lastToken ≤ B + (n + 1 : Nat))
    (hmicros : v.updatedAt.micros = s'.store.lastToken)
    (hgrows : j.state.store.lastToken ≤ s'.store.lastToken)
    (hlater : ∀ v' ∈ versions j, v'.updatedAt < v.updatedAt)
    (hget : ∀ id, s'.store.findValidation id
      = if v.orderId = id then some v else j.state.store.findValidation id)
    (hcomputed : Computed (report t) (j.log t) (⟨t, k, a, j.state, s'⟩ : Made τ _ _ _) v) :
    Sound report B (n + 1) (j.add ⟨t, k, a, j.state, s'⟩) := by
  have hversions : versions (j.add ⟨t, k, a, j.state, s'⟩) = versions j ++ [v] := by
    rw [versions_add]
    show versions j ++ (k.stored? a).toList = _
    rw [hstored]
    rfl
  refine ⟨hkeyed, hlast, ?_, ?_, fun id => ?_, ?_, ?_⟩
  · intro v' hv'
    show v'.updatedAt.micros ≤ s'.store.lastToken
    rw [hversions, List.mem_append, List.mem_singleton] at hv'
    rcases hv' with hv' | rfl
    · exact Int.le_trans (h.issued v' hv') hgrows
    · exact Int.le_of_eq hmicros
  · rw [hversions, List.pairwise_append]
    refine ⟨h.increasing, List.pairwise_singleton _ _, fun v' hv' v'' hv'' => ?_⟩
    rw [List.mem_singleton.1 hv'']
    exact hlater v' hv'
  · rw [hversions, lastVersion?_concat, ← h.current]
    exact hget id
  · intro m hm v' hv'
    rw [hversions]
    rcases List.mem_append.1 hm with hm | hm
    · exact (h.reads m hm v' hv').imp_left (List.mem_append_left _)
    · obtain rfl := List.mem_singleton.1 hm
      change k.read? a = some (some v') at hv'
      rw [hread] at hv'
      cases hv'
  · intro m hm v' hv'
    rcases List.mem_append.1 hm with hm | hm
    · exact (h.computed m hm v' hv').mono (Journal.log_subset_add _ _ _)
    · obtain rfl := List.mem_singleton.1 hm
      change k.stored? a = some v' at hv'
      rw [hstored] at hv'
      obtain rfl := Option.some.inj hv'
      exact hcomputed.mono (Journal.log_subset_add _ _ _)

/-- **Every call of the work on a report keeps what is known of the versions.** -/
theorem add (h : Sound report B n j) {t : τ} {k : Call} {a : Answer k} {s' : State}
    (hdoes : (report t).Does (j.log t) w j.state k a s') (hkeyed : s'.store.Keyed)
    (hnow : (w k).now.micros ≤ B) (hn : (B : Int) + n < Instant.lastMicros) :
    Sound report B (n + 1) (j.add ⟨t, k, a, j.state, s'⟩) := by
  cases hdoes with
  | leaves hstored hread _ hvalidations hlast =>
    refine h.add_of_keeps hkeyed hstored hvalidations hlast fun v hv => ?_
    rw [hread] at hv
    cases hv
  | reads =>
    refine h.add_of_keeps hkeyed rfl rfl rfl fun v hv => ?_
    have hget : j.state.store.findValidation (report t).orderId = some v := Option.some.inj hv
    refine ⟨?_, h.keyed.validation hget⟩
    rw [h.current] at hget
    exact mem_of_lastVersion? hget
  | @writes _ _ _ o x now hl htoken hstored hread _ hs' =>
    -- What is replaced is what was read, so the new version was computed from it.
    have hx : j.state.store.findValidation (report t).orderId = x := h.replaced hl htoken
    have hid : ((report t).next x now).orderId = (report t).orderId :=
      orderId_next_of _ now fun v hv => h.keyed.validation (hx.trans hv)
    have hnow' : (w k).now.micros ≤ (B : Int) + n := Int.le_trans hnow (by omega)
    obtain ⟨hmicros, hlast, hgrows, hbound⟩ :=
      micros_writeValidation ((report t).next x now) hnow' h.bounded hn
    have hget : ∀ id, s'.store.findValidation id = _ := fun id => by
      rw [hs', findValidation_writeValidation]
    refine h.add_of_stores hkeyed hstored hread ?_ ?_ ?_ (fun v hv => ?_) hget ⟨hid, ?_, ?_, ?_⟩
    · rw [hs', hlast]
      omega
    · rw [hs', hlast]
      exact hmicros
    · rw [hs', hlast]
      exact Int.le_of_lt hgrows
    · exact lt_updatedAt_writeValidation _ hnow' h.bounded hn (h.issued v hv)
    · show (⟨.findValidation _, .ok (j.state.store.findValidation _)⟩ : Answered Call Answer) ∈ _
      rw [hl, hx]
      simp [Report.reading]
    · refine ⟨now, ?_, ?_⟩
      · rw [hl]
        simp
      · show OrderValidation.sameState _ ((report t).next (j.state.store.findValidation _) now) = true
        rw [hx]
        exact OrderValidation.sameState_iff.2 ⟨rfl, rfl⟩
    · show s'.store.findValidation _ = _
      rw [hget, if_pos hid]

end Sound

end CourierDispatch.OrderService
