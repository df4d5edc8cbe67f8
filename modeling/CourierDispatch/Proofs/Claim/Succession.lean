import CourierDispatch.Proofs.Claim.Stopping

/-!
# One claim after another

A partition that is taken away and comes back has several claims, one started after
another (`Successive`): the claim that takes messages is the one that was started last, and
what was put into the channel of an earlier claim was handed out before everything that was
put into that of a later one. So the messages of a partition are taken in the order in which
they were handed out, whichever claims take them, and a claim takes a message only when all
others of its partition are at their end or were taken away (`Leads.takes_in_turn`).
-/

namespace CourierDispatch.ClaimSet.Chronicle

open Claim (Call Answer)

variable {c c' : Chronicle} {n : Nat} {t t' : Claim.Task} {a : Act}

/-! ## What a claim has taken -/

/-- **The messages that a task has taken**, as they were handed out. -/
def takenBy (c : Chronicle) (n : Nat) : List Handout :=
  (ofTask n c.sent).take (ofTask n c.taken).length

/-- The message that a task has taken last. -/
def current? (c : Chronicle) (n : Nat) : Option Handout := (c.takenBy n).getLast?

theorem takenBy_subset (c : Chronicle) (n : Nat) : c.takenBy n ⊆ ofTask n c.sent :=
  List.take_subset _ _

/-- What a task has taken are messages that were put into its channel. -/
theorem map_takenBy {made : List (Answered Call Answer)} {visits : List Visit}
    (h : Account (ofTask n c.sent) (ofTask n c.taken) made t visits) :
    (c.takenBy n).map (·.message) = ofTask n c.taken := by
  unfold takenBy
  rw [List.map_take, h.order, List.take_left]

/-- A task takes messages in the order in which they were handed out. -/
theorem Numbered.takenBy (h : Numbered c) (n : Nat) :
    (c.takenBy n).Pairwise (·.number < ·.number) := by
  have hsent : c.sent.Pairwise (·.2.number < ·.2.number) :=
    List.pairwise_map.1 (List.pairwise_append.1 h.increasing).1
  have htask : (ofTask n c.sent).Pairwise (·.number < ·.number) :=
    List.pairwise_map.2 (hsent.filter _)
  exact htask.sublist (List.take_sublist _ _)

/-- **What an act means for what a task has taken**: it takes one more message, having had
use for it, or none. -/
theorem Concerns.takes_cases {visits : List Visit} (h : Concerns c c' n t t')
    (haccount : Account (ofTask n c.sent) (ofTask n c.taken) (ofTask n c.made) t visits) :
    (c'.takenBy n = c.takenBy n
        ∧ (t'.phase = t.phase ∨ ∃ call, Moves (c.set.isStopped t) t none call t'))
      ∨ ∃ handout ∈ ofTask n c.sent, c'.takenBy n = c.takenBy n ++ [handout]
        ∧ t.phase = .idle ∧ c.set.isStopped t = false
        ∧ t'.phase = .busy (Claim.process handout.message) := by
  have hlength : (ofTask n c.taken).length ≤ (ofTask n c.sent).length := by
    have := congrArg List.length haccount.order
    rw [List.length_map, List.length_append] at this
    omega
  cases h with
  | spared _ _ hphase _ hsent htaken _ =>
    refine .inl ⟨?_, .inl hphase⟩
    unfold Chronicle.takenBy
    rw [hsent, htaken]
  | given _ ht' hsent htaken _ =>
    refine .inl ⟨?_, .inl (by rw [ht'])⟩
    unfold Chronicle.takenBy
    rw [hsent, htaken, List.take_append_of_le_length hlength]
  | @moved m call hmoves hsent htaken _ =>
    cases m with
    | none =>
      refine .inl ⟨?_, .inr ⟨call, hmoves⟩⟩
      unfold Chronicle.takenBy
      rw [hsent, htaken, Option.toList_none, List.append_nil]
    | some m =>
      cases hmoves with
      | takes hphase hstop hqueue =>
        -- The message at the head of the channel is the next one that was put into it.
        have hnext : ((ofTask n c.sent)[(ofTask n c.taken).length]?).map (·.message) = some m := by
          rw [← List.getElem?_map, haccount.order, hqueue,
            List.getElem?_append_right (Nat.le_refl _), Nat.sub_self]
          rfl
        obtain ⟨handout, hget, rfl⟩ := Option.map_eq_some_iff.1 hnext
        refine .inr ⟨handout, List.mem_of_getElem? hget, ?_, hphase, hstop, rfl⟩
        unfold Chronicle.takenBy
        rw [hsent, htaken, Option.toList_some, List.length_append, List.length_singleton,
          List.take_add_one, hget, Option.toList_some]

/-- A task takes nothing back. -/
theorem Concerns.takenBy_subset {visits : List Visit} (h : Concerns c c' n t t')
    (haccount : Account (ofTask n c.sent) (ofTask n c.taken) (ofTask n c.made) t visits) :
    c.takenBy n ⊆ c'.takenBy n := by
  rcases h.takes_cases haccount with ⟨heq, -⟩ | ⟨handout, -, heq, -⟩
  · rw [heq]
    exact List.Subset.refl _
  · rw [heq]
    exact List.subset_append_left _ _

/-! ## The claims of a partition -/

/-- **The claims of a partition follow one another.** -/
structure Successive (c : Chronicle) : Prop where
  /-- The claim that takes messages is the last task of its partition. -/
  last : ∀ ⦃key : PartitionKey⦄ ⦃n : Nat⦄, c.set.claims.get? key = some n →
    ∀ ⦃i : Nat⦄ ⦃t : Claim.Task⦄, c.set.tasks[i]? = some t → t.key = key → i ≤ n
  /-- The message that waits for room waits for the last task of its partition. -/
  waiting : ∀ ⦃n : Nat⦄ ⦃m : Fetched⦄, c.set.offer = some (n, m) →
    ∀ ⦃i : Nat⦄ ⦃t : Claim.Task⦄, c.set.tasks[i]? = some t → t.key = m.key → i ≤ n
  /-- What was put into the channel of a task was handed out before what was put into the
  channel of a later one. -/
  sent : ∀ ⦃i j : Nat⦄ ⦃t t' : Claim.Task⦄, i < j → c.set.tasks[i]? = some t →
    c.set.tasks[j]? = some t' → t.key = t'.key →
    ∀ h ∈ ofTask i c.sent, ∀ h' ∈ ofTask j c.sent, h.number < h'.number

theorem successive_start (buffer : Nat) : Successive (start buffer) :=
  ⟨fun _ _ h => (by cases h), fun _ _ h => (by cases h), fun _ _ _ _ _ h => by cases h⟩

namespace Successive

/-- No task is started. -/
theorem of_back (hc : Successive c)
    (hback : ∀ ⦃i : Nat⦄ ⦃t' : Claim.Task⦄, c'.set.tasks[i]? = some t' →
      ∃ t, c.set.tasks[i]? = some t ∧ t.key = t'.key)
    (hclaims : ∀ key n, c'.set.claims.get? key = some n → c.set.claims.get? key = some n)
    (hoffer : ∀ n m, c'.set.offer = some (n, m) →
      c.set.offer = some (n, m) ∨ c.set.claims.get? m.key = some n)
    (hsent : c'.sent = c.sent) : Successive c' where
  last := fun key n hn i t' ht' hkey => by
    obtain ⟨t, ht, hkey'⟩ := hback ht'
    exact hc.last (hclaims key n hn) ht (hkey'.trans hkey)
  waiting := fun n m hm i t' ht' hkey => by
    obtain ⟨t, ht, hkey'⟩ := hback ht'
    rcases hoffer n m hm with hm | hn
    · exact hc.waiting hm ht (hkey'.trans hkey)
    · exact hc.last hn ht (hkey'.trans hkey)
  sent := fun i j t₁ t₂ hij ht₁ ht₂ hkey => by
    obtain ⟨t, ht, hkey₁⟩ := hback ht₁
    obtain ⟨t', ht', hkey₂⟩ := hback ht₂
    rw [hsent]
    exact hc.sent hij ht ht' (hkey₁.trans (hkey.trans hkey₂.symm))

/-- The tasks are the same. -/
theorem of_tasks_eq (hc : Successive c) (htasks : c'.set.tasks = c.set.tasks)
    (hclaims : ∀ key n, c'.set.claims.get? key = some n → c.set.claims.get? key = some n)
    (hoffer : ∀ n m, c'.set.offer = some (n, m) →
      c.set.offer = some (n, m) ∨ c.set.claims.get? m.key = some n)
    (hsent : c'.sent = c.sent) : Successive c' :=
  hc.of_back (fun _ t ht => ⟨t, htasks ▸ ht, rfl⟩) hclaims hoffer hsent

/-- The session gets further. -/
theorem advances (hc : Successive c) (hs : Advances c.set c'.set)
    (hoffer : c'.set.offer = c.set.offer) (hsent : c'.sent = c.sent) : Successive c' := by
  refine hc.of_back (fun i t' ht' => ?_) (fun key n hn => hs.claims ▸ hn)
    (fun n m hm => .inl (hoffer ▸ hm)) hsent
  obtain ⟨t, ht, hfurther⟩ := hs.back ht'
  exact ⟨t, ht, hfurther.key.symm⟩

/-- A claim is started. -/
theorem starts (hc : Successive c) (hsound : Sound c) {m : Fetched}
    {claims : Table PartitionKey Nat}
    (hclaims : ∀ key, claims.get? key
      = if key = m.key then some c.set.tasks.length else c.set.claims.get? key) :
    Successive { c with
      set := { c.set with
        claims
        tasks := c.set.tasks ++ [{ key := m.key }]
        offer := some (c.set.tasks.length, m) } } where
  last := fun key n hn i t ht hkey => by
    change claims.get? key = some n at hn
    rw [hclaims] at hn
    rcases getElem?_concat_cases ht with ht | ⟨rfl, rfl⟩
    · split at hn
      · rw [← Option.some.inj hn]
        exact Nat.le_of_lt (List.getElem?_eq_some_iff.1 ht).1
      · exact hc.last hn ht hkey
    · rw [if_pos hkey.symm] at hn
      exact Nat.le_of_eq (Option.some.inj hn)
  waiting := fun n _ hm i t ht _ => by
    obtain ⟨rfl, -⟩ := Prod.mk.inj (Option.some.inj hm)
    rcases getElem?_concat_cases ht with ht | ⟨rfl, -⟩
    · exact Nat.le_of_lt (List.getElem?_eq_some_iff.1 ht).1
    · exact Nat.le_refl _
  sent := fun i j t t' hij ht ht' hkey h hh h' hh' => by
    rcases getElem?_concat_cases ht' with ht' | ⟨rfl, -⟩
    · have hlt := (List.getElem?_eq_some_iff.1 ht').1
      rcases getElem?_concat_cases ht with ht | ⟨rfl, -⟩
      · exact hc.sent hij ht ht' hkey h hh h' hh'
      · exact absurd hij (Nat.lt_asymm hlt)
    · have hblank := (hsound.blank (List.getElem?_eq_none (Nat.le_refl c.set.tasks.length))).1
      change h' ∈ ofTask c.set.tasks.length c.sent at hh'
      rw [hblank] at hh'
      cases hh'

/-- A message is put into the channel of a task. -/
theorem puts (hc : Successive c) (hsound : Sound c) (hnumbered : Numbered c) {h : Handout}
    {m : Fetched} {answers : List (Nat × Bool)} (hturn : c.turn = some h)
    (hoffer : c.set.offer = some (n, m)) :
    Successive { c with
      set := c.set.withdraw.modifyTask n fun t => { t with queue := t.queue ++ [m] }
      turn := none
      answers
      sent := c.sent ++ [(n, h)] } := by
  have hadvances : Advances c.set
      (c.set.withdraw.modifyTask n fun t => { t with queue := t.queue ++ [m] }) := by
    have hmodify := advances_modifyTask (s := c.set.withdraw) (n := n)
      (f := fun t => { t with queue := t.queue ++ [m] }) fun _ => ⟨rfl, rfl, id⟩
    exact ⟨hmodify.claims, hmodify.cancelled, hmodify.forth, hmodify.back⟩
  have hback : ∀ ⦃i : Nat⦄ ⦃t' : Claim.Task⦄, (c.set.withdraw.modifyTask n fun t =>
      { t with queue := t.queue ++ [m] }).tasks[i]? = some t' →
      ∃ t, c.set.tasks[i]? = some t ∧ t.key = t'.key := fun i t' ht' => by
    obtain ⟨t, ht, hfurther⟩ := hadvances.back ht'
    exact ⟨t, ht, hfurther.key.symm⟩
  -- It was handed out after all that were put into channels before.
  have hlate : ∀ i, ∀ h' ∈ ofTask i c.sent, h'.number < h.number := by
    intro i h' hh'
    obtain ⟨x, hx, rfl⟩ := List.mem_map.1 hh'
    have hincreasing := hnumbered.increasing
    unfold numbers at hincreasing
    rw [hturn] at hincreasing
    refine (List.pairwise_append.1 hincreasing).2.2 _ ?_ _ (List.mem_singleton_self _)
    exact List.mem_map_of_mem (List.mem_filter.1 hx).1
  have hwas : ∀ i h', h' ∈ ofTask i (c.sent ++ [(n, h)]) →
      h' ∈ ofTask i c.sent ∨ (i = n ∧ h' = h) := by
    intro i h' hh'
    have hnew := ofTask_map i n [h]
    rw [ofTask_append] at hh'
    refine (List.mem_append.1 hh').imp_right fun hh' => ?_
    change h' ∈ ofTask i ([h].map (n, ·)) at hh'
    rw [hnew] at hh'
    split at hh'
    · next hn => exact ⟨hn.symm, List.mem_singleton.1 hh'⟩
    · cases hh'
  refine ⟨fun key n' hn i t' ht' hkey => ?_, fun _ _ hm => (by cases hm),
    fun i j t₁ t₂ hij ht₁ ht₂ hkey h₁ hh₁ h₂ hh₂ => ?_⟩
  · obtain ⟨t, ht, hkey'⟩ := hback ht'
    exact hc.last hn ht (hkey'.trans hkey)
  · obtain ⟨u₁, hu₁, hkey₁⟩ := hback ht₁
    obtain ⟨u₂, hu₂, hkey₂⟩ := hback ht₂
    have hsame : u₁.key = u₂.key := hkey₁.trans (hkey.trans hkey₂.symm)
    rcases hwas i h₁ hh₁ with hold₁ | ⟨rfl, rfl⟩
    · rcases hwas j h₂ hh₂ with hold₂ | ⟨rfl, rfl⟩
      · exact hc.sent hij hu₁ hu₂ hsame h₁ hold₁ h₂ hold₂
      · exact hlate i h₁ hold₁
    · -- It was put into the channel of the last task of its partition.
      obtain ⟨-, u, hu, hukey⟩ := hsound.offered hoffer
      obtain rfl := Option.some.inj (hu₁.symm.trans hu)
      exact absurd hij (Nat.not_lt.2 (hc.waiting hoffer hu₂ (hsame.symm.trans hukey)))

end Successive

/-- **The claims of a partition follow one another whatever happens.** -/
theorem Leads.successive (h : Leads c a c') (hsound : Sound c) (hnumbered : Numbered c)
    (hc : Successive c) : Successive c' := by
  cases h with
  | finds hturn hget =>
    refine hc.of_tasks_eq rfl (fun _ _ => id) (fun n m hm => .inr ?_) rfl
    obtain ⟨rfl, rfl⟩ := Prod.mk.inj (Option.some.inj hm)
    exact hget
  | starts _ _ hclaims => exact hc.starts hsound hclaims
  | puts hturn hoffer _ => exact hc.puts hsound hnumbered hturn hoffer
  | refused _ _ => exact hc.of_tasks_eq rfl (fun _ _ => id) (fun _ _ hm => by cases hm) rfl
  | loses _ => exact hc.of_tasks_eq rfl (fun _ _ => id) (fun _ _ hm => by cases hm) rfl
  | withdraws => exact hc.of_tasks_eq rfl (fun _ _ => id) (fun _ _ hm => by cases hm) rfl
  | joins i => exact hc.advances (advances_modifyTask fun _ => ⟨rfl, rfl, id⟩) rfl rfl
  | revokes key =>
    refine hc.of_back (fun i t' ht' => ?_) (fun key' n hn => ?_)
      (fun n m hm => .inl (offer_revokeOne key c.set ▸ hm)) rfl
    · change (c.set.revokeOne key).tasks[i]? = some t' at ht'
      unfold revokeOne at ht'
      split at ht'
      · rw [getElem?_modifyTask] at ht'
        obtain ⟨t, ht, rfl⟩ := Option.map_eq_some_iff.1 ht'
        refine ⟨t, ht, ?_⟩
        split <;> rfl
      · exact ⟨t', ht', rfl⟩
    · change (c.set.revokeOne key).claims.get? key' = some n at hn
      unfold revokeOne at hn
      split at hn
      · change (c.set.claims.erase key).get? key' = some n at hn
        rw [Table.get?_erase] at hn
        split at hn
        · cases hn
        · exact hn
      · exact hn
  | closes => exact hc.of_tasks_eq rfl (fun _ _ hn => by cases hn) (fun _ _ hm => by cases hm) rfl
  | moves i reply =>
    exact hc.advances (advances_modifyTask fun t => further_moveTask _ reply t) rfl rfl
  | _ => exact hc.of_tasks_eq rfl (fun _ _ => id) (fun _ _ => .inl) rfl

theorem successive_run (buffer : Nat) (as : List Act) : Successive (run as (start buffer)) := by
  have hall : ∀ as, Sound (run as (start buffer)) ∧ Numbered (run as (start buffer)) :=
    fun as => ⟨sound_run buffer as, numbered_run buffer as⟩
  induction as using List.reverseRecOn with
  | nil => exact successive_start buffer
  | append_singleton as a ih =>
    rw [run_concat]
    exact (leads_act _ a).successive (hall as).1 (hall as).2 ih

/-! ## Taking messages in turn -/

/-- A task that has use for messages is the claim of its partition, and all others of its
partition are at their end or were taken away. -/
theorem Sound.others_done (hc : Sound c) (ht : c.set.tasks[n]? = some t)
    (hended : t.hasEnded = false) (hstopped : c.set.isStopped t = false) {i : Nat}
    {u : Claim.Task} (hu : c.set.tasks[i]? = some u) (hkey : u.key = t.key) (hne : i ≠ n) :
    u.hasEnded = true ∨ u.revoked = true := by
  by_contra huse
  rw [not_or, Bool.not_eq_true, Bool.not_eq_true] at huse
  have hn := hc.registered.live ht hended hstopped
  have hi := hc.registered.live hu huse.1
    (isStopped_eq_false.2 ⟨(isStopped_eq_false.1 hstopped).1, huse.2⟩)
  rw [hkey, hn] at hi
  exact hne (Option.some.inj hi).symm

/-- **A claim takes a message in its turn**: the other claims of its partition are at their
end or were taken away, and what any of them has taken was handed out before it. -/
theorem Leads.takes_in_turn (h : Leads c a c') (hsound : Sound c) (hnumbered : Numbered c')
    (hc : Successive c) (ht : c.set.tasks[n]? = some t) {handout : Handout}
    (htakes : c'.takenBy n = c.takenBy n ++ [handout]) {i : Nat} {u : Claim.Task}
    (hu : c.set.tasks[i]? = some u) (hkey : u.key = t.key) :
    (i ≠ n → u.hasEnded = true ∨ u.revoked = true)
      ∧ ∀ earlier ∈ c.takenBy i, earlier.number < handout.number := by
  obtain ⟨t', -, hconcerns⟩ := (h.alters hsound.offered).concerns ht
  obtain ⟨visits, haccount⟩ := hsound.accounts ht
  rcases hconcerns.takes_cases haccount with ⟨heq, -⟩ | ⟨handout', hsent, heq, hidle, hstopped, -⟩
  · exact absurd (heq.symm.trans htakes) (by simp)
  obtain rfl : handout' = handout := by
    simpa using heq.symm.trans htakes
  have hended : t.hasEnded = false := by
    unfold Claim.Task.hasEnded
    rw [hidle]
    rfl
  refine ⟨hsound.others_done ht hended hstopped hu hkey, fun earlier hearlier => ?_⟩
  have hlast := hc.last (hsound.registered.live ht hended hstopped) hu hkey
  rcases Nat.lt_or_eq_of_le hlast with hlt | rfl
  · exact hc.sent hlt hu ht hkey earlier (takenBy_subset c i hearlier) _ hsent
  · have hincreasing := hnumbered.takenBy i
    rw [htakes] at hincreasing
    exact (List.pairwise_append.1 hincreasing).2.2 _ hearlier _ (List.mem_singleton_self _)

end CourierDispatch.ClaimSet.Chronicle
