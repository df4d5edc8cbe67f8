import CourierDispatch.Proofs.Claim.Acts
import CourierDispatch.Proofs.Claim.Visits

/-!
# Claims take prefixes

Three invariants say what the claims of a session have done, each kept by every act.

The claims that take messages are known by their partitions (`Registered`), so that a
partition without a claim has only tasks without use for messages. Every task has an
account (`Sound`): what it has taken is the beginning of what was put into its channel,
which is all of its partition. And messages are put into channels in the order in which
they were handed out, each into one at most, and those that are refused into none
(`Numbered`).
-/

namespace CourierDispatch.ClaimSet

open Claim (Call Answer)

/-! ## The claims that take messages -/

section Registered

variable {s s' : ClaimSet}

/-- **The claims are known by their partitions**, as long as they have use for
messages. -/
structure Registered (s : ClaimSet) : Prop where
  /-- Claims are of their partitions. -/
  keyed : Keyed s
  /-- A task that has use for messages is the claim of its partition. -/
  live : ∀ ⦃n : Nat⦄ ⦃t : Claim.Task⦄, s.tasks[n]? = some t → t.hasEnded = false →
    s.isStopped t = false → s.claims.get? t.key = some n

theorem isStopped_eq_false {t : Claim.Task} :
    s.isStopped t = false ↔ s.cancelled = false ∧ t.revoked = false :=
  Bool.or_eq_false_iff

theorem registered_start (buffer : Nat) : Registered (start buffer) :=
  ⟨fun _ _ h => (by cases h), fun _ _ h => by cases h⟩

namespace Registered

/-- The session gets further. -/
theorem advances (h : Registered s) (hs : Advances s s') : Registered s' where
  keyed := h.keyed.advances hs
  live := fun n t' ht' hended hstopped => by
    obtain ⟨t, ht, hfurther⟩ := hs.back ht'
    obtain ⟨hcancelled, hrevoked⟩ := isStopped_eq_false.1 hstopped
    rw [hs.claims, hfurther.key]
    refine h.live ht ?_ (isStopped_eq_false.2 ⟨?_, ?_⟩)
    · exact Bool.eq_false_iff.2 fun he => by simp [hfurther.ended he] at hended
    · exact Bool.eq_false_iff.2 fun hc => by simp [hs.cancelled hc] at hcancelled
    · rw [← hfurther.revoked]
      exact hrevoked

/-- A claim is started in place of one that has no more use for messages. -/
theorem started (h : Registered s) {key : PartitionKey}
    (hstale : ∀ n, s.claims.get? key = some n → s.isStale n = true)
    {claims : Table PartitionKey Nat}
    (hclaims : ∀ j, claims.get? j = if j = key then some s.tasks.length else s.claims.get? j) :
    Registered { s with claims, tasks := s.tasks ++ [{ key := key }] } where
  keyed := h.keyed.started hclaims
  live := fun n t ht hended hstopped => by
    rw [hclaims]
    rcases getElem?_concat_cases ht with ht | ⟨rfl, rfl⟩
    · have hget := h.live ht hended hstopped
      split
      · next hkey =>
        have hn := hstale n (hkey ▸ hget)
        unfold isStale at hn
        rw [ht] at hn
        simp [hended, show s.isStopped t = false from hstopped] at hn
      · exact hget
    · exact if_pos rfl

/-- A partition is taken away. -/
theorem revokeOne (h : Registered s) (key : PartitionKey) : Registered (s.revokeOne key) := by
  refine ⟨h.keyed.revokeOne key, ?_⟩
  unfold ClaimSet.revokeOne
  split
  · next n hn =>
    intro i t' ht' hended hstopped
    obtain ⟨hcancelled, hrevoked⟩ := isStopped_eq_false.1 hstopped
    rw [getElem?_modifyTask] at ht'
    obtain ⟨t, ht, rfl⟩ := Option.map_eq_some_iff.1 ht'
    by_cases hi : n = i
    · rw [if_pos hi] at hrevoked
      cases hrevoked
    · rw [if_neg hi] at hended hrevoked ⊢
      have hget := h.live ht hended (isStopped_eq_false.2 ⟨hcancelled, hrevoked⟩)
      -- Another task is the claim of another partition.
      have hkey : t.key ≠ key := fun hkey => by
        rw [hkey, hn] at hget
        exact hi (Option.some.inj hget)
      show (s.claims.erase key).get? t.key = some i
      rw [Table.get?_erase, if_neg hkey]
      exact hget
  · exact h.live

/-- **A partition without a claim has only tasks without use for messages.** -/
theorem isStale_of_get?_eq_none (h : Registered s) {key : PartitionKey}
    (hget : s.claims.get? key = none) {n : Nat} {t : Claim.Task} (ht : s.tasks[n]? = some t)
    (hkey : t.key = key) : s.isStale n = true := by
  unfold isStale
  rw [ht]
  show (t.hasEnded || s.isStopped t) = true
  cases huse : t.hasEnded || s.isStopped t with
  | true => rfl
  | false =>
    obtain ⟨hended, hstopped⟩ := Bool.or_eq_false_iff.1 huse
    have hclaim := h.live ht hended hstopped
    rw [hkey, hget] at hclaim
    cases hclaim

end Registered

theorem registered_close (s : ClaimSet) : Registered s.close :=
  ⟨fun _ _ hn => (by cases hn), fun _ _ _ _ hstopped => by cases hstopped⟩

/-- A partition that was taken away has no claim. -/
theorem get?_revokeOne (key : PartitionKey) (s : ClaimSet) :
    (s.revokeOne key).claims.get? key = none := by
  unfold revokeOne
  split
  · exact Table.get?_erase_self _ _
  · next hnone => exact hnone

end Registered

namespace Chronicle

variable {c c' : Chronicle} {n : Nat} {a : Act}

/-! ## What every act preserves -/

/-- **A chronicle in which every task can be accounted for.** -/
structure Sound (c : Chronicle) : Prop where
  /-- The claims that take messages are known. -/
  registered : Registered c.set
  /-- The message that waits for room is the one that is being handed out. -/
  offered : c.Offered
  /-- Every task has an account. -/
  accounts : ∀ ⦃n : Nat⦄ ⦃t : Claim.Task⦄, c.set.tasks[n]? = some t →
    ∃ visits, Account (ofTask n c.sent) (ofTask n c.taken) (ofTask n c.made) t visits
  /-- Of a task that is not there nothing is noted. -/
  blank : ∀ ⦃n : Nat⦄, c.set.tasks[n]? = none →
    ofTask n c.sent = [] ∧ ofTask n c.taken = [] ∧ ofTask n c.made = []

theorem sound_start (buffer : Nat) : Sound (start buffer) where
  registered := registered_start buffer
  offered := fun _ _ h => by cases h
  accounts := fun _ _ h => by cases h
  blank := fun _ _ => ⟨rfl, rfl, rfl⟩

theorem Concerns.key {t t' : Claim.Task} (h : Concerns c c' n t t') : t'.key = t.key := by
  cases h with
  | spared hkey _ _ _ _ _ _ => exact hkey
  | given _ ht' _ _ _ => rw [ht']
  | moved hmoves _ _ _ => cases hmoves <;> rfl

/-- A task that can be accounted for still can. -/
theorem Concerns.account {t t' : Claim.Task} (h : Concerns c c' n t t') {visits : List Visit}
    (ht : Account (ofTask n c.sent) (ofTask n c.taken) (ofTask n c.made) t visits) :
    ∃ visits', Account (ofTask n c'.sent) (ofTask n c'.taken) (ofTask n c'.made) t' visits' := by
  cases h with
  | spared hkey hqueue hphase _ hsent htaken hmade =>
    rw [hsent, htaken, hmade]
    exact ⟨visits, ht.of_standing hkey hqueue (hphase ▸ ht.standing)⟩
  | given hkey ht' hsent htaken hmade =>
    rw [hsent, htaken, hmade, ht']
    exact ⟨visits, ht.put hkey⟩
  | moved hmoves hsent htaken hmade =>
    rw [hsent, htaken, hmade]
    exact ht.move hmoves

theorem Leads.registered (h : Leads c a c') (hc : Registered c.set) : Registered c'.set := by
  cases h with
  | starts _ hstale hclaims =>
    exact (hc.started hstale hclaims).advances (advances_of_eq rfl id rfl)
  | puts _ _ _ =>
    have hgone : Registered c.set.withdraw := hc.advances (advances_of_eq rfl id rfl)
    exact hgone.advances (advances_modifyTask fun _ => ⟨rfl, rfl, id⟩)
  | joins n => exact hc.advances (advances_modifyTask fun _ => ⟨rfl, rfl, id⟩)
  | revokes key => exact hc.revokeOne key
  | cancels => exact hc.advances (advances_of_eq rfl (fun _ => rfl) rfl)
  | closes => exact registered_close c.set
  | moves n reply => exact hc.advances (advances_modifyTask fun t => further_moveTask _ reply t)
  | _ => exact hc.advances (advances_of_eq rfl id rfl)

theorem offered_of_none (hoffer : c.set.offer = none) : c.Offered := by
  intro n m h
  rw [hoffer] at h
  cases h

/-- Nothing waits for room if nothing is being handed out. -/
theorem Offered.offer_eq_none (h : c.Offered) (hturn : c.turn = none) : c.set.offer = none := by
  cases hoffer : c.set.offer with
  | none => rfl
  | some offer =>
    obtain ⟨⟨handout, hhandout, -⟩, -⟩ := h hoffer
    rw [hturn] at hhandout
    cases hhandout

/-- The same message still waits for room. -/
theorem Offered.alters (h : c.Offered) (halters : Alters c c')
    (hoffer : c'.set.offer = c.set.offer) (hturn : c'.turn = c.turn) : c'.Offered := by
  intro n m hm
  rw [hoffer] at hm
  obtain ⟨hhandout, t, ht, hkey⟩ := h hm
  obtain ⟨t', ht', hconcerns⟩ := halters.concerns ht
  rw [hturn]
  exact ⟨hhandout, t', ht', hconcerns.key.trans hkey⟩

theorem Leads.offered (h : Leads c a c') (hc : c.Offered) (hkeyed : Keyed c.set) : c'.Offered := by
  have halters := h.alters hc
  cases h with
  | begins _ hturn _ => exact offered_of_none (hc.offer_eq_none hturn)
  | @finds handout _ hturn hget =>
    intro n m hm
    obtain ⟨rfl, rfl⟩ := Prod.mk.inj (Option.some.inj hm)
    exact ⟨⟨handout, hturn, rfl⟩, hkeyed hget⟩
  | @starts handout _ hturn _ _ =>
    intro n m hm
    obtain ⟨rfl, rfl⟩ := Prod.mk.inj (Option.some.inj hm)
    exact ⟨⟨handout, hturn, rfl⟩, { key := handout.message.key }, by simp, rfl⟩
  | refused _ _ => exact offered_of_none rfl
  | loses _ => exact offered_of_none rfl
  | puts _ _ _ => exact offered_of_none rfl
  | withdraws => exact offered_of_none rfl
  | closes => exact offered_of_none rfl
  | revokes key => exact hc.alters halters (offer_revokeOne key c.set) rfl
  | _ => exact hc.alters halters rfl rfl

/-- **Every act leaves a chronicle in which every task can be accounted for.** -/
theorem Leads.sound (h : Leads c a c') (hc : Sound c) : Sound c' where
  registered := h.registered hc.registered
  offered := h.offered hc.offered hc.registered.keyed
  accounts := fun n t' ht' => by
    have halters := h.alters hc.offered
    cases ht : c.set.tasks[n]? with
    | some t =>
      obtain ⟨u, hu, hconcerns⟩ := halters.concerns ht
      obtain rfl := Option.some.inj (ht'.symm.trans hu)
      obtain ⟨visits, haccount⟩ := hc.accounts ht
      exact hconcerns.account haccount
    | none =>
      have hunborn := halters.unborn ht
      obtain ⟨hsent, htaken, hmade⟩ := hc.blank ht
      obtain ⟨key, rfl⟩ := hunborn.started t' ht'
      rw [hunborn.sent, hunborn.taken, hunborn.made, hsent, htaken, hmade]
      exact ⟨[], .fresh key⟩
  blank := fun n ht' => by
    have halters := h.alters hc.offered
    cases ht : c.set.tasks[n]? with
    | some t =>
      obtain ⟨u, hu, -⟩ := halters.concerns ht
      rw [ht'] at hu
      cases hu
    | none =>
      have hunborn := halters.unborn ht
      rw [hunborn.sent, hunborn.taken, hunborn.made]
      exact hc.blank ht

/-- **Every task can be accounted for at any time.** -/
theorem sound_run (buffer : Nat) (as : List Act) : Sound (run as (start buffer)) :=
  run_preserves (fun _ _ _ h hc => h.sound hc) as (sound_start buffer)

/-! ## Numbers -/

/-- The numbers of the messages that were put into channels or are being handed out. -/
def numbers (c : Chronicle) : List Nat :=
  c.sent.map (·.2.number) ++ (c.turn.map (·.number)).toList

/-- **Messages are put into channels in the order in which they are handed out**, each
into one at most, and those that are refused into none. -/
structure Numbered (c : Chronicle) : Prop where
  /-- They are in order. -/
  increasing : c.numbers.Pairwise (· < ·)
  /-- They have been handed out. -/
  bounded : ∀ d ∈ c.numbers, d < c.asked
  /-- A message is refused only if the session was cancelled. -/
  refused : ∀ d, (d, false) ∈ c.answers → c.set.cancelled = true ∧ d < c.asked ∧ d ∉ c.numbers

namespace Numbered

/-- No message has a number that it did not have. -/
theorem of_sublist (h : Numbered c) (hnumbers : c'.numbers.Sublist c.numbers)
    (hasked : c'.asked = c.asked) (hanswers : ∀ d, (d, false) ∈ c'.answers → (d, false) ∈ c.answers)
    (hcancelled : c.set.cancelled = true → c'.set.cancelled = true) : Numbered c' where
  increasing := h.increasing.sublist hnumbers
  bounded := fun d hd => hasked ▸ h.bounded d (hnumbers.subset hd)
  refused := fun d hd => by
    obtain ⟨hc, hlt, hmem⟩ := h.refused d (hanswers d hd)
    exact ⟨hcancelled hc, hasked ▸ hlt, fun hd' => hmem (hnumbers.subset hd')⟩

/-- The message that was being handed out no longer is. -/
theorem withdraw (h : Numbered c) {s : ClaimSet}
    (hcancelled : c.set.cancelled = true → s.cancelled = true) :
    Numbered { c with set := s, turn := none } := by
  refine h.of_sublist ?_ rfl (fun _ => id) hcancelled
  exact List.Sublist.append_left (List.nil_sublist _) _

/-- Another message is being handed out. -/
theorem begins (h : Numbered c) (hlive : c.set.cancelled = false) (m : Fetched) :
    Numbered { c with asked := c.asked + 1, turn := some ⟨c.asked, m⟩ } := by
  have hold : ∀ d ∈ c.sent.map (·.2.number), d < c.asked :=
    fun d hd => h.bounded d (List.mem_append_left _ hd)
  refine ⟨List.pairwise_append.2 ⟨(List.pairwise_append.1 h.increasing).1,
    List.pairwise_singleton _ _, fun d hd d' hd' => ?_⟩, fun d hd => ?_, fun d hd => ?_⟩
  · rw [List.mem_singleton.1 hd']
    exact hold d hd
  · rcases List.mem_append.1 hd with hd | hd
    · exact Nat.lt_succ_of_lt (hold d hd)
    · rw [List.mem_singleton.1 hd]
      exact Nat.lt_succ_self _
  · have hcancelled := (h.refused d hd).1
    rw [hlive] at hcancelled
    cases hcancelled

/-- A number is passed over. -/
theorem pass (h : Numbered c) : Numbered { c with asked := c.asked + 1 } where
  increasing := h.increasing
  bounded := fun d hd => Nat.lt_succ_of_lt (h.bounded d hd)
  refused := fun d hd => by
    obtain ⟨hcancelled, hlt, hfree⟩ := h.refused d hd
    exact ⟨hcancelled, Nat.lt_succ_of_lt hlt, hfree⟩

/-- A message is refused. -/
theorem refuse (h : Numbered c) (hcancelled : c.set.cancelled = true) {d : Nat} (hd : d < c.asked)
    (hfree : d ∉ c.numbers) : Numbered { c with answers := c.answers ++ [(d, false)] } := by
  refine ⟨h.increasing, h.bounded, fun d' hd' => ?_⟩
  rcases List.mem_append.1 hd' with hd' | hd'
  · exact h.refused d' hd'
  · obtain ⟨rfl, -⟩ := Prod.mk.inj (List.mem_singleton.1 hd')
    exact ⟨hcancelled, hd, hfree⟩

/-- A message is accepted. -/
theorem accept (h : Numbered c) (d : Nat) :
    Numbered { c with answers := c.answers ++ [(d, true)] } := by
  refine h.of_sublist (List.Sublist.refl _) rfl (fun d' hd' => ?_) id
  simpa using hd'

/-- The number of the message that is being handed out is that of no message that was
put into a channel. -/
theorem number_of_turn (h : Numbered c) {handout : Handout} (hturn : c.turn = some handout) :
    handout.number < c.asked ∧ handout.number ∉ c.sent.map (·.2.number) := by
  have hnumbers : c.numbers = c.sent.map (·.2.number) ++ [handout.number] := by
    unfold numbers
    rw [hturn]
    rfl
  have hincreasing := h.increasing
  have hbounded := h.bounded
  rw [hnumbers] at hincreasing hbounded
  refine ⟨hbounded _ (List.mem_append_right _ (List.mem_singleton_self _)), fun hmem => ?_⟩
  have hlt := (List.pairwise_append.1 hincreasing).2.2 _ hmem _ (List.mem_singleton_self _)
  exact Nat.lt_irrefl _ hlt

/-- The message that is being handed out is put into a channel. -/
theorem put (h : Numbered c) {handout : Handout} (hturn : c.turn = some handout) (n : Nat)
    {s : ClaimSet} (hcancelled : c.set.cancelled = true → s.cancelled = true) :
    Numbered { c with set := s, turn := none, sent := c.sent ++ [(n, handout)] } := by
  refine h.of_sublist ?_ rfl (fun _ => id) hcancelled
  show ((c.sent ++ [(n, handout)]).map (fun x : Nat × Handout => x.2.number) ++ []).Sublist _
  unfold numbers
  rw [hturn, List.append_nil, List.map_append]
  exact List.Sublist.refl _

end Numbered

theorem Leads.numbered (h : Leads c a c') (hc : Numbered c) : Numbered c' := by
  have hmono := h.cancelled
  cases h with
  | refusedAtOnce _ _ hcancelled =>
    exact hc.pass.refuse hcancelled (Nat.lt_succ_self _) fun hd => Nat.lt_irrefl _ (hc.bounded _ hd)
  | begins m _ hlive => exact hc.begins hlive m
  | refused hturn hcancelled =>
    obtain ⟨hlt, hfree⟩ := hc.number_of_turn hturn
    have hgone : Numbered { c with set := c.set.withdraw, turn := none } := hc.withdraw id
    refine hgone.refuse hcancelled hlt fun hd => hfree ?_
    exact (List.mem_append.1 hd).resolve_right List.not_mem_nil
  | loses hturn =>
    have hgone : Numbered { c with set := c.set.withdraw, turn := none } := hc.withdraw id
    exact hgone.accept _
  | @puts handout n m _ hturn _ _ =>
    have hput : Numbered { c with
        set := c.set.withdraw.modifyTask n fun t => { t with queue := t.queue ++ [m] }
        turn := none, sent := c.sent ++ [(n, handout)] } := hc.put hturn n id
    exact hput.accept _
  | withdraws => exact hc.withdraw id
  | closes => exact hc.withdraw fun _ => rfl
  | _ => exact hc.of_sublist (List.Sublist.refl _) rfl (fun _ => id) hmono

theorem numbered_start (buffer : Nat) : Numbered (start buffer) :=
  ⟨.nil, fun _ h => (by cases h), fun _ h => by cases h⟩

theorem numbered_run (buffer : Nat) (as : List Act) : Numbered (run as (start buffer)) :=
  run_preserves (fun _ _ _ h hc => h.numbered hc) as (numbered_start buffer)

end Chronicle

end CourierDispatch.ClaimSet
