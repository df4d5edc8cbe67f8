import CourierDispatch.Journal
import CourierDispatch.Proofs.Claim.Steps
import Mathlib.Data.List.Induction

/-!
# After a claim has failed

A partition that is not taken away has one claim at a time (`Orderly`): a new task is
started only when the last one has ended. So when a claim fails, all tasks of its
partition have ended, and the messages that were in its channel stay where they are.

The partition is at rest from then on, but not for good. The next message of it that is
handed out starts a new claim, and whatever is done for the partition after a failure
is done for messages handed out after it (`work_after_failure`). If that happens before
anybody has asked for the result of the claim that failed, the messages after the one
that failed are handled and marked, and the one that failed is passed over
(`failure_passed_over`).
-/

namespace CourierDispatch.ClaimSet

variable {k : PartitionKey} {s s' : ClaimSet}

/-! ## Tasks that get further -/

/-- **A task further on**: of the same partition, and at its end if it was. -/
structure Further (t t' : Claim.Task) : Prop where
  /-- Of the same partition. -/
  key : t'.key = t.key
  /-- Taken away or not as before. -/
  revoked : t'.revoked = t.revoked
  /-- What has ended stays so. -/
  ended : t.hasEnded = true → t'.hasEnded = true

theorem Further.refl (t : Claim.Task) : Further t t := ⟨rfl, rfl, id⟩

/-- A task that has ended moves no more. -/
theorem moveTask_of_hasEnded {t : Claim.Task} (h : t.hasEnded = true) (stopped : Bool)
    (reply : (c : Claim.Call) → Reply (Claim.Answer c)) : moveTask stopped reply t = none := by
  unfold moveTask
  unfold Claim.Task.hasEnded Claim.Phase.result? at h
  cases hphase : t.phase with
  | ended r => rfl
  | idle => rw [hphase] at h; cases h
  | busy rest => rw [hphase] at h; cases h

/-- A task that moves gets further. -/
theorem further_moveTask (stopped : Bool) (reply : (c : Claim.Call) → Reply (Claim.Answer c))
    (t : Claim.Task) : Further t ((moveTask stopped reply t).getD t) := by
  have hsame : ∀ t', moveTask stopped reply t = some t' →
      t'.key = t.key ∧ t'.revoked = t.revoked := by
    intro t' h
    unfold moveTask at h
    split at h
    · split at h
      · exact Option.some.inj h ▸ ⟨rfl, rfl⟩
      · split at h
        · cases h
        · exact Option.some.inj h ▸ ⟨rfl, rfl⟩
    · exact Option.some.inj h ▸ ⟨rfl, rfl⟩
    · exact Option.some.inj h ▸ ⟨rfl, rfl⟩
    · split at h
      · exact Option.some.inj h ▸ ⟨rfl, rfl⟩
      · cases h
      · exact Option.some.inj h ▸ ⟨rfl, rfl⟩
    · cases h
  cases hmove : moveTask stopped reply t with
  | none => exact .refl t
  | some t' =>
    refine ⟨(hsame t' hmove).1, (hsame t' hmove).2, fun h => ?_⟩
    rw [moveTask_of_hasEnded h] at hmove
    cases hmove

/-- **A session further on**, whose claims are the same and whose tasks have got
further. -/
structure Advances (s s' : ClaimSet) : Prop where
  /-- The same claims. -/
  claims : s'.claims = s.claims
  /-- Cancelled if it was. -/
  cancelled : s.cancelled = true → s'.cancelled = true
  /-- Every task has got further. -/
  forth : ∀ ⦃i : Nat⦄ ⦃t : Claim.Task⦄, s.tasks[i]? = some t →
    ∃ t', s'.tasks[i]? = some t' ∧ Further t t'
  /-- There are no other tasks. -/
  back : ∀ ⦃i : Nat⦄ ⦃t' : Claim.Task⦄, s'.tasks[i]? = some t' →
    ∃ t, s.tasks[i]? = some t ∧ Further t t'

theorem getElem?_modifyTask (n : Nat) (f : Claim.Task → Claim.Task) (s : ClaimSet) (i : Nat) :
    (s.modifyTask n f).tasks[i]? = s.tasks[i]?.map fun t => if n = i then f t else t :=
  List.getElem?_modify f n s.tasks i

/-- A task is changed so that it gets further. -/
theorem advances_modifyTask {n : Nat} {f : Claim.Task → Claim.Task}
    (hf : ∀ t, Further t (f t)) : Advances s (s.modifyTask n f) where
  claims := rfl
  cancelled := id
  forth := fun i t ht => by
    refine ⟨if n = i then f t else t, ?_, ?_⟩
    · rw [getElem?_modifyTask, ht]
      rfl
    · split
      · exact hf t
      · exact .refl t
  back := fun i t' ht' => by
    rw [getElem?_modifyTask] at ht'
    obtain ⟨t, ht, rfl⟩ := Option.map_eq_some_iff.1 ht'
    refine ⟨t, ht, ?_⟩
    split
    · exact hf t
    · exact .refl t

/-- The claims and tasks are the same. -/
theorem advances_of_eq (hclaims : s'.claims = s.claims)
    (hcancelled : s.cancelled = true → s'.cancelled = true) (htasks : s'.tasks = s.tasks) :
    Advances s s' where
  claims := hclaims
  cancelled := hcancelled
  forth := fun _ t ht => ⟨t, htasks ▸ ht, .refl t⟩
  back := fun _ t ht => ⟨t, htasks ▸ ht, .refl t⟩

theorem advances_settleOffer (s : ClaimSet) : Advances s s.settleOffer.2 := by
  unfold settleOffer
  split
  · exact advances_of_eq rfl id rfl
  · next n m hoffer =>
    dsimp only
    split
    · exact advances_of_eq rfl id rfl
    · split
      · exact advances_of_eq rfl id rfl
      · split
        · exact advances_of_eq rfl id rfl
        · split
          · have hqueue := advances_modifyTask (s := { s with offer := none }) (n := n)
              (f := fun t => { t with queue := t.queue ++ [m] }) fun _ => ⟨rfl, rfl, id⟩
            exact ⟨hqueue.claims, hqueue.cancelled, hqueue.forth, hqueue.back⟩
          · exact advances_of_eq rfl id rfl

/-! ## Claims and their partitions -/

/-- **Claims are of their partitions.** -/
def Keyed (s : ClaimSet) : Prop :=
  ∀ ⦃key : PartitionKey⦄ ⦃n : Nat⦄, s.claims.get? key = some n →
    ∃ t, s.tasks[n]? = some t ∧ t.key = key

namespace Keyed

theorem advances (h : Keyed s) (hs : Advances s s') : Keyed s' := by
  intro key n hn
  rw [hs.claims] at hn
  obtain ⟨t, ht, hkey⟩ := h hn
  obtain ⟨t', ht', hfurther⟩ := hs.forth ht
  exact ⟨t', ht', hfurther.key.trans hkey⟩

theorem started (h : Keyed s) {key : PartitionKey} {claims : Table PartitionKey Nat}
    (hclaims : ∀ j, claims.get? j = if j = key then some s.tasks.length else s.claims.get? j) :
    Keyed { s with claims, tasks := s.tasks ++ [{ key := key }] } := by
  intro key' n hn
  rw [hclaims] at hn
  split at hn
  · next heq =>
    obtain rfl := Option.some.inj hn
    exact ⟨{ key := key }, by simp, heq.symm⟩
  · obtain ⟨t, ht, hkey⟩ := h hn
    exact ⟨t, (List.getElem?_append_left (List.getElem?_eq_some_iff.1 ht).1).trans ht, hkey⟩

theorem revokeOne (h : Keyed s) (key : PartitionKey) : Keyed (s.revokeOne key) := by
  unfold ClaimSet.revokeOne
  split
  · next n hn =>
    intro key' i hi
    change (s.claims.erase key).get? key' = some i at hi
    rw [Table.get?_erase] at hi
    split at hi
    · cases hi
    · obtain ⟨t, ht, hkey⟩ := h hi
      refine ⟨if n = i then { t with revoked := true } else t, ?_, ?_⟩
      · rw [getElem?_modifyTask, ht]
        rfl
      · split <;> exact hkey
  · exact h

end Keyed

/-! ## One claim at a time -/

/-- **A partition has one claim at a time**, as long as it is not taken away. -/
structure Orderly (k : PartitionKey) (s : ClaimSet) : Prop where
  /-- Claims are of their partitions. -/
  keyed : ∀ ⦃key : PartitionKey⦄ ⦃n : Nat⦄, s.claims.get? key = some n →
    ∃ t, s.tasks[n]? = some t ∧ t.key = key
  /-- The partition was not taken away. -/
  kept : ∀ ⦃i : Nat⦄ ⦃t : Claim.Task⦄, s.tasks[i]? = some t → t.key = k → t.revoked = false
  /-- The claim is the last task of the partition. -/
  last : ∀ ⦃n : Nat⦄, s.claims.get? k = some n →
    ∀ ⦃i : Nat⦄ ⦃t : Claim.Task⦄, s.tasks[i]? = some t → t.key = k → i ≤ n
  /-- There is a claim once there is a task, unless the session was cancelled. -/
  unclaimed : s.claims.get? k = none → s.cancelled = true
    ∨ ∀ ⦃i : Nat⦄ ⦃t : Claim.Task⦄, s.tasks[i]? = some t → t.key ≠ k
  /-- All tasks of the partition but the last have ended. -/
  sole : ∀ ⦃i j : Nat⦄ ⦃t t' : Claim.Task⦄, i < j → s.tasks[i]? = some t →
    s.tasks[j]? = some t' → t.key = k → t'.key = k → t.hasEnded = true

theorem orderly_start (buffer : Nat) (k : PartitionKey) : Orderly k (start buffer) :=
  ⟨fun _ _ h => (by cases h), fun _ _ h => (by cases h), fun _ h => (by cases h),
    fun _ => .inr fun _ _ h => (by cases h), fun _ _ _ _ _ h => (by cases h)⟩

namespace Orderly

/-- A session that gets further stays in order. -/
theorem advances (h : Orderly k s) (hs : Advances s s') : Orderly k s' where
  keyed := Keyed.advances h.keyed hs
  kept := fun i t' ht' hkey => by
    obtain ⟨t, ht, hfurther⟩ := hs.back ht'
    rw [hfurther.revoked]
    exact h.kept ht (hfurther.key.symm.trans hkey)
  last := fun n hn i t' ht' hkey => by
    rw [hs.claims] at hn
    obtain ⟨t, ht, hfurther⟩ := hs.back ht'
    exact h.last hn ht (hfurther.key.symm.trans hkey)
  unclaimed := fun hnone => by
    rw [hs.claims] at hnone
    refine (h.unclaimed hnone).imp hs.cancelled fun hall i t' ht' hkey => ?_
    obtain ⟨t, ht, hfurther⟩ := hs.back ht'
    exact hall ht (hfurther.key.symm.trans hkey)
  sole := fun i j t₁ t₂ hij ht₁ ht₂ hk₁ hk₂ => by
    obtain ⟨t, ht, hfurther⟩ := hs.back ht₁
    obtain ⟨t', ht', hfurther'⟩ := hs.back ht₂
    exact hfurther.ended (h.sole hij ht ht' (hfurther.key.symm.trans hk₁)
      (hfurther'.key.symm.trans hk₂))

end Orderly

/-- The tasks there were, and the new one. -/
theorem getElem?_concat_cases {tasks : List Claim.Task} {new t : Claim.Task} {i : Nat}
    (h : (tasks ++ [new])[i]? = some t) : tasks[i]? = some t ∨ (i = tasks.length ∧ t = new) := by
  rw [List.getElem?_append] at h
  split at h
  · exact .inl h
  · next hi =>
    rw [List.getElem?_singleton] at h
    split at h
    · exact .inr ⟨by omega, (Option.some.inj h).symm⟩
    · cases h

/-- **The task that takes the messages of a partition** is the one that is there and
has use for them, or a new one. -/
theorem claimFor_cases (key : PartitionKey) (s : ClaimSet) :
    (∃ n, s.claims.get? key = some n ∧ s.isStale n = false ∧ s.claimFor key = (n, s))
      ∨ ((∀ n, s.claims.get? key = some n → s.isStale n = true)
        ∧ ∃ claims, (∀ j, claims.get? j = if j = key then some s.tasks.length else s.claims.get? j)
          ∧ s.claimFor key
            = (s.tasks.length, { s with claims, tasks := s.tasks ++ [{ key := key }] })) := by
  unfold claimFor
  cases hget : s.claims.get? key with
  | none =>
    exact .inr ⟨fun _ h => (by cases h), _, fun j => Table.get?_put _ _ _ _, rfl⟩
  | some n =>
    dsimp only
    cases hstale : s.isStale n with
    | false => exact .inl ⟨n, rfl, hstale, rfl⟩
    | true =>
      refine .inr ⟨fun n' h => Option.some.inj h ▸ hstale, _, fun j => ?_, rfl⟩
      rw [Table.get?_put, Table.get?_erase]
      split <;> rfl

namespace Orderly

/-- A claim that has no more use for messages has ended, and so have all tasks of its
partition. -/
theorem hasEnded_of_stale (h : Orderly k s) (hlive : s.cancelled = false)
    (hstale : ∀ n, s.claims.get? k = some n → s.isStale n = true) {i : Nat} {t : Claim.Task}
    (ht : s.tasks[i]? = some t) (hkey : t.key = k) : t.hasEnded = true := by
  cases hget : s.claims.get? k with
  | none =>
    rcases h.unclaimed hget with hcancelled | hall
    · rw [hlive] at hcancelled
      cases hcancelled
    · exact absurd hkey (hall ht)
  | some n =>
    obtain ⟨last, hlast, hkeyLast⟩ := h.keyed hget
    have hended : last.hasEnded = true := by
      have hn := hstale n hget
      unfold isStale isStopped at hn
      rw [hlast] at hn
      simpa [hlive, h.kept hlast hkeyLast] using hn
    -- The claim is the last task of its partition, so every other one has ended before.
    rcases Nat.lt_or_eq_of_le (h.last hget ht hkey) with hi | rfl
    · exact h.sole hi ht hlast hkey hkeyLast
    · obtain rfl := Option.some.inj (ht.symm.trans hlast)
      exact hended

/-- A task is started for a partition whose claim has no more use for messages. -/
theorem started (h : Orderly k s) (hlive : s.cancelled = false) {key : PartitionKey}
    (hstale : ∀ n, s.claims.get? key = some n → s.isStale n = true)
    {claims : Table PartitionKey Nat}
    (hclaims : ∀ j, claims.get? j = if j = key then some s.tasks.length else s.claims.get? j) :
    Orderly k { s with claims, tasks := s.tasks ++ [{ key := key }] } := by
  refine ⟨Keyed.started h.keyed hclaims, fun i t ht hkey => ?_, fun n hn i t ht hkey => ?_,
    fun hnone => ?_, fun i j t t' hij ht ht' hkey hkey' => ?_⟩
  · rcases getElem?_concat_cases ht with ht | ⟨-, rfl⟩
    · exact h.kept ht hkey
    · rfl
  · rw [hclaims] at hn
    split at hn
    · obtain rfl := Option.some.inj hn
      rcases getElem?_concat_cases ht with ht | ⟨rfl, -⟩
      · exact Nat.le_of_lt (List.getElem?_eq_some_iff.1 ht).1
      · exact Nat.le_refl _
    · next hne =>
      rcases getElem?_concat_cases ht with ht | ⟨-, rfl⟩
      · exact h.last hn ht hkey
      · exact absurd hkey.symm hne
  · rw [hclaims] at hnone
    split at hnone
    · cases hnone
    · next hne =>
      refine (h.unclaimed hnone).imp_right fun hall i t ht hkey => ?_
      rcases getElem?_concat_cases ht with ht | ⟨-, rfl⟩
      · exact hall ht hkey
      · exact hne hkey.symm
  · -- The new task is the last one, and those of its partition before it have ended.
    rcases getElem?_concat_cases ht with ht | ⟨rfl, rfl⟩
    · rcases getElem?_concat_cases ht' with ht' | ⟨rfl, rfl⟩
      · exact h.sole hij ht ht' hkey hkey'
      · obtain rfl : key = k := hkey'
        exact h.hasEnded_of_stale hlive hstale ht hkey
    · rcases getElem?_concat_cases ht' with ht' | ⟨rfl, -⟩
      · have := (List.getElem?_eq_some_iff.1 ht').1
        omega
      · exact absurd hij (Nat.lt_irrefl _)

/-- A message is handed out. -/
theorem dispatch (h : Orderly k s) (m : Fetched) : Orderly k (s.dispatch m).2 := by
  unfold ClaimSet.dispatch
  split
  · exact h
  · next hlive =>
    have hlive' : s.cancelled = false := by simpa using hlive
    rcases claimFor_cases m.key s with ⟨n, -, -, heq⟩ | ⟨hstale, claims, hclaims, heq⟩
    · rw [heq]
      have hoffer : Orderly k { s with offer := some (n, m) } :=
        h.advances (advances_of_eq rfl id rfl)
      exact hoffer.advances (advances_settleOffer _)
    · rw [heq]
      have hoffer : Orderly k { s with
          claims, tasks := s.tasks ++ [{ key := m.key }], offer := some (s.tasks.length, m) } :=
        (h.started hlive' hstale hclaims).advances (advances_of_eq rfl id rfl)
      exact hoffer.advances (advances_settleOffer _)

/-- Another partition is taken away. -/
theorem revokeOne (h : Orderly k s) {key : PartitionKey} (hne : key ≠ k) :
    Orderly k (s.revokeOne key) := by
  unfold ClaimSet.revokeOne
  split
  · next n hn =>
    obtain ⟨taken, htaken, hkeyTaken⟩ := h.keyed hn
    have hget : (s.claims.erase key).get? k = s.claims.get? k :=
      Table.get?_erase_of_ne _ (Ne.symm hne)
    -- Only a task of the other partition is marked as taken away.
    have hback : ∀ {i : Nat} {t' : Claim.Task}, (modifyTask n (fun t => { t with revoked := true })
        { s with claims := s.claims.erase key }).tasks[i]? = some t' →
        ∃ t, s.tasks[i]? = some t ∧ t'.key = t.key ∧ t'.hasEnded = t.hasEnded
          ∧ (t.key = k → t'.revoked = t.revoked) := by
      intro i t' ht'
      rw [getElem?_modifyTask] at ht'
      obtain ⟨t, ht, rfl⟩ := Option.map_eq_some_iff.1 ht'
      refine ⟨t, ht, ?_⟩
      split
      · next hi =>
        subst hi
        obtain rfl := Option.some.inj (htaken.symm.trans ht)
        exact ⟨rfl, rfl, fun hk => absurd (hkeyTaken.symm.trans hk) hne⟩
      · exact ⟨rfl, rfl, fun _ => rfl⟩
    have hkeyed := Keyed.revokeOne h.keyed key
    unfold ClaimSet.revokeOne at hkeyed
    rw [hn] at hkeyed
    refine ⟨hkeyed, fun i t' ht' hkey => ?_, fun n' hn' i t' ht' hkey => ?_, fun hnone => ?_,
      fun i j t₁ t₂ hij ht₁ ht₂ hk₁ hk₂ => ?_⟩
    · obtain ⟨t, ht, hkey', -, hrevoked⟩ := hback ht'
      rw [hrevoked (hkey'.symm.trans hkey)]
      exact h.kept ht (hkey'.symm.trans hkey)
    · obtain ⟨t, ht, hkey', -⟩ := hback ht'
      exact h.last (hget.symm.trans hn') ht (hkey'.symm.trans hkey)
    · refine (h.unclaimed (hget.symm.trans hnone)).imp_right fun hall i t' ht' hkey => ?_
      obtain ⟨t, ht, hkey', -⟩ := hback ht'
      exact hall ht (hkey'.symm.trans hkey)
    · obtain ⟨t, ht, hkey, hended, -⟩ := hback ht₁
      obtain ⟨t', ht', hkey', -⟩ := hback ht₂
      rw [hended]
      exact h.sole hij ht ht' (hkey.symm.trans hk₁) (hkey'.symm.trans hk₂)
  · exact h

/-- Other partitions are taken away. -/
theorem revoke (h : Orderly k s) {keys : List PartitionKey} (hne : k ∉ keys) :
    Orderly k (s.revoke keys) := by
  unfold ClaimSet.revoke
  induction keys generalizing s with
  | nil => exact h
  | cons key rest ih =>
    rw [List.mem_cons, not_or] at hne
    exact ih (h.revokeOne (Ne.symm hne.1)) hne.2

/-- The session is closed. -/
theorem close (h : Orderly k s) : Orderly k s.close :=
  ⟨fun _ _ hn => (by cases hn), h.kept, fun _ hn => (by cases hn), fun _ => .inl rfl, h.sole⟩

end Orderly

/-- The partition is not taken away by a step. -/
def Event.Spares (k : PartitionKey) : Event → Prop
  | .revoke keys => k ∉ keys
  | _ => True

/-- **Every step but taking the partition away leaves it with one claim at a time.** -/
theorem Orderly.step (h : Orderly k s) {e : Event} (he : e.Spares k) : Orderly k (s.step e) := by
  cases e with
  | dispatch m =>
    show Orderly k (if s.offer.isSome then s else (s.dispatch m).2)
    split
    · exact h
    · exact h.dispatch m
  | settle => exact h.advances (advances_settleOffer s)
  | join n => exact h.advances (advances_modifyTask fun t => ⟨rfl, rfl, id⟩)
  | revoke keys => exact h.revoke he
  | cancel => exact h.advances (advances_of_eq rfl (fun _ => rfl) rfl)
  | close => exact h.close
  | move n reply => exact h.advances (advances_modifyTask fun t => further_moveTask _ reply t)

theorem Orderly.run (h : Orderly k s) {es : List Event} (hes : ∀ e ∈ es, e.Spares k) :
    Orderly k (run es s) := by
  induction es using List.reverseRecOn with
  | nil => exact h
  | append_singleton es e ih =>
    rw [run_concat]
    exact (ih fun e he => hes e (List.mem_append_left _ he)).step
      (hes e (List.mem_append_right _ (List.mem_singleton_self _)))

/-! ## What is left to do -/

/-- **A message of the partition that was handed out** by some steps. -/
def Handed (es : List Event) (k : PartitionKey) (m : Fetched) : Prop :=
  .dispatch m ∈ es ∧ m.key = k

/-- **What a task has left to do is on messages that were handed out**: they are in its
channel, or it is at one of them. -/
structure Serves (es : List Event) (k : PartitionKey) (t : Claim.Task) : Prop where
  /-- The messages in its channel. -/
  queue : ∀ m ∈ t.queue, Handed es k m
  /-- The message that it is at. -/
  phase : ∀ rest, t.phase = .busy rest →
    ∃ m, Handed es k m ∧ ∃ l, (Claim.process m).Trail l rest

/-- **Nothing is left to do for a partition** but what some steps have handed out. -/
structure Fresh (es : List Event) (k : PartitionKey) (s : ClaimSet) : Prop where
  /-- Its tasks. -/
  tasks : ∀ ⦃i : Nat⦄ ⦃t : Claim.Task⦄, s.tasks[i]? = some t → t.key = k →
    t.hasEnded = true ∨ Serves es k t
  /-- The message that waits for room. -/
  offer : ∀ ⦃n : Nat⦄ ⦃m : Fetched⦄ ⦃t : Claim.Task⦄, s.offer = some (n, m) →
    s.tasks[n]? = some t → t.key = k → t.hasEnded = true ∨ Handed es k m

section Serves

variable {es es' : List Event}

theorem Handed.mono (hes : es ⊆ es') {m : Fetched} (h : Handed es k m) : Handed es' k m :=
  ⟨hes h.1, h.2⟩

theorem Serves.mono (hes : es ⊆ es') {t : Claim.Task} (h : Serves es k t) : Serves es' k t := by
  refine ⟨fun m hm => (h.queue m hm).mono hes, fun rest hrest => ?_⟩
  obtain ⟨m, hm, l, hl⟩ := h.phase rest hrest
  exact ⟨m, hm.mono hes, l, hl⟩

theorem Fresh.mono (hes : es ⊆ es') (h : Fresh es k s) : Fresh es' k s :=
  ⟨fun _ _ ht hkey => (h.tasks ht hkey).imp_right (·.mono hes),
    fun _ _ _ hoffer ht hkey => (h.offer hoffer ht hkey).imp_right (·.mono hes)⟩

/-- A task that moves goes on with what it has to do. -/
theorem Serves.moveTask {t : Claim.Task} (h : Serves es k t) (stopped : Bool)
    (reply : (c : Claim.Call) → Reply (Claim.Answer c)) :
    ((ClaimSet.moveTask stopped reply t).getD t).hasEnded = true
      ∨ Serves es k ((ClaimSet.moveTask stopped reply t).getD t) := by
  unfold ClaimSet.moveTask
  split
  · split
    · exact .inl rfl
    · split
      · exact .inr h
      · next m rest hqueue =>
        have hm : ∀ m' ∈ m :: rest, Handed es k m' := fun m' hm' => h.queue m' (hqueue ▸ hm')
        refine .inr ⟨fun m' hm' => hm m' (List.mem_cons_of_mem _ hm'), fun work hwork => ?_⟩
        obtain rfl := Claim.Phase.busy.inj hwork
        exact ⟨m, hm m List.mem_cons_self, [], .refl _⟩
  · exact .inr ⟨h.queue, fun _ hrest => by cases hrest⟩
  · exact .inl rfl
  · next c next hphase =>
    split
    · next a _ =>
      obtain ⟨m, hm, l, hl⟩ := h.phase _ hphase
      refine .inr ⟨h.queue, fun rest hrest => ?_⟩
      obtain rfl := Claim.Phase.busy.inj hrest
      exact ⟨m, hm, _, hl.snoc a⟩
    · exact .inr h
    · exact .inl rfl
  · exact .inr h

namespace Fresh

/-- The tasks are the same, and the message that waits for room still does, or does
no more. -/
theorem of_tasks_eq (h : Fresh es k s) (htasks : s'.tasks = s.tasks)
    (hoffer : s'.offer = s.offer ∨ s'.offer = none) : Fresh es k s' := by
  refine ⟨fun i t ht => h.tasks (htasks ▸ ht), fun n m t ho ht => ?_⟩
  rcases hoffer with heq | heq
  · exact h.offer (heq ▸ ho) (htasks ▸ ht)
  · rw [heq] at ho
    cases ho

/-- A task is changed. -/
theorem modifyTask (h : Fresh es k s) {n : Nat} {f : Claim.Task → Claim.Task}
    (hkey : ∀ t, (f t).key = t.key) (hended : ∀ t, t.hasEnded = true → (f t).hasEnded = true)
    (hserves : ∀ t, s.tasks[n]? = some t → t.key = k → Serves es k t →
      (f t).hasEnded = true ∨ Serves es k (f t)) : Fresh es k (s.modifyTask n f) := by
  refine ⟨fun i t' ht' hk => ?_, fun i m t' hoffer ht' hk => ?_⟩
  · rw [getElem?_modifyTask] at ht'
    obtain ⟨t, ht, rfl⟩ := Option.map_eq_some_iff.1 ht'
    split
    · next hi =>
      subst hi
      rw [if_pos rfl, hkey] at hk
      rcases h.tasks ht hk with he | hs
      · exact .inl (hended t he)
      · exact hserves t ht hk hs
    · next hi =>
      rw [if_neg hi] at hk
      exact h.tasks ht hk
  · rw [getElem?_modifyTask] at ht'
    obtain ⟨t, ht, rfl⟩ := Option.map_eq_some_iff.1 ht'
    split
    · next hi =>
      rw [if_pos hi, hkey] at hk
      exact (h.offer hoffer ht hk).imp_left (hended t)
    · next hi =>
      rw [if_neg hi] at hk
      exact h.offer hoffer ht hk

theorem settleOffer (h : Fresh es k s) : Fresh es k s.settleOffer.2 := by
  unfold ClaimSet.settleOffer
  split
  · exact h
  · next n m hoffer =>
    dsimp only
    split
    · exact h.of_tasks_eq rfl (.inr rfl)
    · split
      · exact h.of_tasks_eq rfl (.inr rfl)
      · next t ht =>
        split
        · exact h.of_tasks_eq rfl (.inr rfl)
        · next hlive =>
          split
          · have hsettled : Fresh es k { s with offer := none } := h.of_tasks_eq rfl (.inr rfl)
            refine hsettled.modifyTask (fun _ => rfl) (fun _ => id) fun t' ht' hk hs => .inr ?_
            obtain rfl := Option.some.inj (ht.symm.trans ht')
            have hm : Handed es k m := (h.offer hoffer ht hk).resolve_left hlive
            refine ⟨fun m' hm' => ?_, hs.phase⟩
            rcases List.mem_append.1 hm' with hm' | hm'
            · exact hs.queue m' hm'
            · exact List.mem_singleton.1 hm' ▸ hm
          · exact h

/-- A message is handed out: what is left to do is on that one or on earlier ones. -/
theorem dispatch (h : Fresh es k s) {m : Fetched} (hm : .dispatch m ∈ es)
    (hkeyed : ∀ ⦃n : Nat⦄, s.claims.get? m.key = some n →
      ∃ t, s.tasks[n]? = some t ∧ t.key = m.key) : Fresh es k (s.dispatch m).2 := by
  unfold ClaimSet.dispatch
  split
  · exact h
  · rcases claimFor_cases m.key s with ⟨n, hget, -, heq⟩ | ⟨-, claims, -, heq⟩
    · rw [heq]
      obtain ⟨t, ht, hkey⟩ := hkeyed hget
      have hoffer : Fresh es k { s with offer := some (n, m) } := by
        refine ⟨h.tasks, fun n' m' t' ho ht' hk => .inr ?_⟩
        cases ho
        obtain rfl := Option.some.inj (ht.symm.trans ht')
        exact ⟨hm, hkey.symm.trans hk⟩
      exact hoffer.settleOffer
    · rw [heq]
      have hoffer : Fresh es k { s with
          claims, tasks := s.tasks ++ [{ key := m.key }], offer := some (s.tasks.length, m) } := by
        refine ⟨fun i t ht hk => ?_, fun n' m' t' ho ht' hk => .inr ?_⟩
        · rcases getElem?_concat_cases ht with ht | ⟨-, rfl⟩
          · exact h.tasks ht hk
          · exact .inr ⟨fun _ hm => (by cases hm), fun _ hrest => by cases hrest⟩
        · cases ho
          rcases getElem?_concat_cases ht' with ht' | ⟨-, rfl⟩
          · exact absurd (List.getElem?_eq_some_iff.1 ht').1 (Nat.lt_irrefl _)
          · exact ⟨hm, hk⟩
      exact hoffer.settleOffer

theorem revoke (h : Fresh es k s) (keys : List PartitionKey) : Fresh es k (s.revoke keys) := by
  unfold ClaimSet.revoke
  induction keys generalizing s with
  | nil => exact h
  | cons key rest ih =>
    refine ih (s := s.revokeOne key) ?_
    unfold revokeOne
    split
    · have herased : Fresh es k { s with claims := s.claims.erase key } :=
        h.of_tasks_eq rfl (.inl rfl)
      exact herased.modifyTask (fun _ => rfl) (fun _ => id) fun _ _ _ hs => .inr ⟨hs.queue, hs.phase⟩
    · exact h

/-- **Every step leaves to do only what was handed out.** -/
theorem step (h : Fresh es k s) (hs : Orderly k s) (e : Event) :
    Fresh (es ++ [e]) k (s.step e) := by
  have hmono : Fresh (es ++ [e]) k s := h.mono (List.subset_append_left _ _)
  cases e with
  | dispatch m =>
    show Fresh _ k (if s.offer.isSome then s else (s.dispatch m).2)
    split
    · exact hmono
    · exact hmono.dispatch (List.mem_append_right _ (List.mem_singleton_self _)) fun _ hn => hs.keyed hn
  | settle => exact hmono.settleOffer
  | join n =>
    exact hmono.modifyTask (fun _ => rfl) (fun _ => id) fun _ _ _ hs => .inr ⟨hs.queue, hs.phase⟩
  | revoke keys => exact hmono.revoke keys
  | cancel => exact hmono.of_tasks_eq rfl (.inl rfl)
  | close => exact hmono.of_tasks_eq rfl (.inr rfl)
  | move n reply =>
    refine hmono.modifyTask (fun t => (further_moveTask _ reply t).key)
      (fun t => (further_moveTask _ reply t).ended) fun t _ _ hs => ?_
    exact hs.moveTask _ reply

/-- From a moment at which nothing is left to do, only what is handed out later is
done. -/
theorem run (h : Fresh [] k s) (hs : Orderly k s) {es : List Event}
    (hes : ∀ e ∈ es, e.Spares k) : Fresh es k (run es s) := by
  induction es using List.reverseRecOn with
  | nil => exact h
  | append_singleton es e ih =>
    have hes' : ∀ e ∈ es, e.Spares k := fun e he => hes e (List.mem_append_left _ he)
    rw [run_concat]
    exact (ih hes').step (hs.run hes') e

end Fresh

end Serves

/-! ## Failures -/

/-- A task at a call is at a message. -/
theorem phase_of_callOf? {t : Claim.Task} {c : Claim.Call} (h : callOf? t = some c) :
    ∃ next, t.phase = .busy (.call c next) := by
  unfold callOf? at h
  split at h
  · next c' next hphase =>
    obtain rfl := Option.some.inj h
    exact ⟨next, hphase⟩
  · cases h

/-- **A task that ends is the last of its partition**: all the others have ended, so
that nothing is left to do for it. -/
theorem Orderly.fresh_of_ended (h : Orderly k s) {n : Nat} {t t' : Claim.Task}
    {reply : (c : Claim.Call) → Reply (Claim.Answer c)} (ht : s.tasks[n]? = some t)
    (hkey : t.key = k) (hlive : t.hasEnded = false)
    (ht' : (s.step (.move n reply)).tasks[n]? = some t') (hended : t'.hasEnded = true) :
    Fresh [] k (s.step (.move n reply)) := by
  have hmove : Advances s (s.step (.move n reply)) :=
    advances_modifyTask fun t => further_moveTask _ reply t
  have hall : ∀ ⦃i : Nat⦄ ⦃u' : Claim.Task⦄, (s.step (.move n reply)).tasks[i]? = some u' →
      u'.key = k → u'.hasEnded = true := by
    intro i u' hu' hk
    obtain ⟨u, hu, hfurther⟩ := hmove.back hu'
    have hk' : u.key = k := hfurther.key.symm.trans hk
    -- A task after this one would have been started only once this one had ended.
    rcases Nat.lt_trichotomy i n with hi | rfl | hi
    · exact hfurther.ended (h.sole hi hu ht hk' hkey)
    · obtain rfl := Option.some.inj (ht'.symm.trans hu')
      exact hended
    · rw [h.sole hi ht hu hkey hk'] at hlive
      cases hlive
  exact ⟨fun _ _ hu hk => .inl (hall hu hk), fun _ _ _ _ hu hk => .inl (hall hu hk)⟩

/-- **After a claim has failed** its partition is at rest, until messages of it are
handed out again: whatever a task of the partition is at from then on, be it reading,
handling or marking, it is at for a message that was handed out after the failure. -/
theorem work_after_failure {buffer : Nat} {es es' : List Event} {n : Nat} {t t' : Claim.Task}
    {reply : (c : Claim.Call) → Reply (Claim.Answer c)} {e : ConsumerError}
    (hspares : ∀ e ∈ es ++ es', e.Spares k)
    (ht : (run es (start buffer)).tasks[n]? = some t) (hkey : t.key = k)
    (hlive : t.hasEnded = false)
    (ht' : (run (es ++ [.move n reply]) (start buffer)).tasks[n]? = some t')
    (hfail : t'.phase = .ended (.error e)) :
    ∀ u ∈ (run (es ++ [.move n reply] ++ es') (start buffer)).tasks, u.key = k →
      ∀ c, callOf? u = some c →
        ∃ m, .dispatch m ∈ es' ∧ m.key = k ∧ ∃ l next, (Claim.process m).Trail l (.call c next) := by
  have horderly := (orderly_start buffer k).run fun e he => hspares e (List.mem_append_left _ he)
  have hended : t'.hasEnded = true := by
    unfold Claim.Task.hasEnded
    rw [hfail]
    rfl
  rw [run_concat] at ht'
  have hfresh := horderly.fresh_of_ended ht hkey hlive ht' hended
  have horderly' : Orderly k ((run es (start buffer)).step (.move n reply)) :=
    horderly.step trivial
  rw [run_append, run_concat]
  intro u hu hk c hc
  obtain ⟨i, hi⟩ := List.getElem?_of_mem hu
  obtain ⟨next, hphase⟩ := phase_of_callOf? hc
  have hlate := (hfresh.run horderly' fun e he => hspares e (List.mem_append_right _ he)).tasks hi hk
  have hbusy : u.hasEnded = false := by
    unfold Claim.Task.hasEnded
    rw [hphase]
    rfl
  obtain ⟨m, hm, l, hl⟩ := (hlate.resolve_left (by simp [hbusy])).phase _ hphase
  exact ⟨m, hm.1, hm.2, l, next, hl⟩

/-- The calls come to what they are to come to: payloads are read, messages marked,
and the handler does what it does. -/
def scripted (handled : Except String Unit) : (c : Claim.Call) → Reply (Claim.Answer c)
  | .decode _ => .answer (.ok .null)
  | .handle _ => .answer handled
  | .mark _ => .answer (.ok ())

/-- A claim that fails on its first message, and a second message handed out after
that. -/
theorem work_after_failure_handedOut :
    let key : PartitionKey := ⟨"orders.v1", 0⟩
    let p : Fetched := ⟨"orders.v1", 0, 7, some []⟩
    let q : Fetched := ⟨"orders.v1", 0, 8, some []⟩
    let fails : Event := .move 0 (scripted (.error "boom"))
    let works : Event := .move 1 (scripted (.ok ()))
    let es : List Event := [.dispatch p, fails, fails, fails]
    let es' : List Event := [.dispatch q, works, works, works]
    (∀ e ∈ es ++ es', e.Spares key)
      ∧ ∃ t t', (run es (start 4)).tasks[0]? = some t ∧ t.key = key ∧ t.hasEnded = false
        ∧ (run (es ++ [fails]) (start 4)).tasks[0]? = some t'
        ∧ t'.phase = .ended (.error (.handler "orders.v1" 0 7 "boom"))
        ∧ ∀ u ∈ (run (es ++ [fails] ++ es') (start 4)).tasks, u.key = key →
          ∀ c, callOf? u = some c → ∃ m, .dispatch m ∈ es' ∧ m.key = key
            ∧ ∃ l next, (Claim.process m).Trail l (.call c next) := by
  intro key p q fails works es es'
  have hspares : ∀ e ∈ es ++ es', e.Spares key := by
    intro e he
    simp only [es, es', List.cons_append, List.nil_append, List.mem_cons, List.not_mem_nil,
      or_false] at he
    rcases he with rfl | rfl | rfl | rfl | rfl | rfl | rfl | rfl
    all_goals exact trivial
  exact ⟨hspares, _, _, rfl, rfl, rfl, rfl, rfl,
    work_after_failure hspares rfl rfl rfl rfl rfl⟩

/-- **A failure is passed over** if the next message of its partition is handed out
before the result of the claim is asked for: the claim on the message at offset 7 has
failed, and a new one is about to mark the message at offset 8. -/
theorem failure_passed_over :
    let p : Fetched := ⟨"orders.v1", 0, 7, some []⟩
    let q : Fetched := ⟨"orders.v1", 0, 8, some []⟩
    let fails : Event := .move 0 (scripted (.error "boom"))
    let works : Event := .move 1 (scripted (.ok ()))
    let es : List Event := [.dispatch p, fails, fails, fails, fails]
    let es' : List Event := [.dispatch q, works, works, works]
    (run es (start 4)).tasks.map (·.phase.result?)
        = [some (.error (.handler "orders.v1" 0 7 "boom"))]
      ∧ q.key = p.key ∧ p.offset < q.offset
      ∧ (run (es ++ es') (start 4)).tasks.map callOf? = [none, some (.mark q)] :=
  ⟨rfl, rfl, by decide, rfl⟩

end CourierDispatch.ClaimSet
