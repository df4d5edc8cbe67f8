import CourierDispatch.Proofs.Claim.AtWork

/-!
# The messages of a partition in the hands of the handler

The messages of a partition are meant to be handled one at a time. What the claims of a
session guarantee is less: a claim takes a message in its turn, but it does not wait for a
claim that was taken away and is still at its message. So two messages of a partition are in
the hands of the handler at once if the partition is taken away at the wrong moment and its
next message is handed out early enough (`handled_at_once`).

The wrong moment is that at which the claim of the partition is at work, and there is no
other: as long as the partition is taken away at other moments only, its messages are handled
one at a time and in the order in which they were handed out; and each time it is taken away
at such a moment two of them may be handled at once (`handled_in_turn`).
-/

namespace CourierDispatch.ClaimSet

open Claim (Call Answer Work Stage)

namespace Chronicle

variable {c c' : Chronicle} {k : PartitionKey} {n : Nat} {t t' : Claim.Task} {a : Act}

/-! ## Handler calls one after another -/

/-- The handler is at a message of the partition that the task has taken. -/
def handles (k : PartitionKey) (c : Chronicle) (n : Nat) : Bool :=
  c.set.tasks[n]?.any fun t => t.key = k && isHandling t

theorem handles_iff : c.handles k n = true
    ↔ ∃ t, c.set.tasks[n]? = some t ∧ t.key = k ∧ isHandling t = true := by
  unfold handles
  rw [Option.any_eq_true]
  simp only [Bool.and_eq_true, decide_eq_true_eq]

/-- **The handler is at one message of the partition at most.** -/
def OneAtATime (k : PartitionKey) (c : Chronicle) : Prop :=
  ∀ ⦃i j : Nat⦄, c.handles k i = true → c.handles k j = true → i = j

theorem Alone.oneAtATime (h : Alone k c) : OneAtATime k c := by
  intro i j hi hj
  obtain ⟨t, ht, hkey, hhandling⟩ := handles_iff.1 hi
  obtain ⟨t', ht', hkey', hhandling'⟩ := handles_iff.1 hj
  exact h.one ht ht' hkey hkey' (isAtWork_of_isHandling hhandling)
    (isAtWork_of_isHandling hhandling')

/-- **The messages of the partition that the handler begins with** by an act. -/
def begins (k : PartitionKey) (c c' : Chronicle) : List Handout :=
  (List.range c'.set.tasks.length).filterMap fun n =>
    if c'.handles k n && !c.handles k n then c'.current? n else none

theorem mem_begins {h : Handout} : h ∈ begins k c c'
    ↔ ∃ n, c'.handles k n = true ∧ c.handles k n = false ∧ c'.current? n = some h := by
  unfold begins
  rw [List.mem_filterMap]
  refine ⟨fun ⟨n, _, hn⟩ => ?_, fun ⟨n, hnow, hbefore, hcurrent⟩ => ⟨n, ?_, ?_⟩⟩
  · split at hn
    · next hbegins =>
      rw [Bool.and_eq_true, Bool.not_eq_true'] at hbegins
      exact ⟨n, hbegins.1, hbegins.2, hn⟩
    · cases hn
  · obtain ⟨t, ht, -⟩ := handles_iff.1 hnow
    exact List.mem_range.2 (List.getElem?_eq_some_iff.1 ht).1
  · rw [if_pos (by rw [hnow, hbefore]; rfl)]
    exact hcurrent

/-- **The messages of the partition that the handler has begun with**, first begun first. -/
def begun (k : PartitionKey) : List Act → Chronicle → List Handout
  | [], _ => []
  | a :: as, c => begins k c (c.act a) ++ begun k as (c.act a)

theorem begun_concat (as : List Act) (a : Act) (c : Chronicle) :
    begun k (as ++ [a]) c = begun k as c ++ begins k (run as c) ((run as c).act a) := by
  induction as generalizing c with
  | nil => exact List.append_nil _
  | cons b as ih =>
    have hrest := ih (c.act b)
    show begins k c (c.act b) ++ begun k (as ++ [a]) (c.act b) = _
    rw [hrest, ← List.append_assoc]
    rfl

/-- **The handler begins with messages in the order in which they were handed out.** -/
structure InOrder (k : PartitionKey) (begun : List Handout) (c : Chronicle) : Prop where
  /-- They are in order. -/
  increasing : begun.Pairwise (·.number < ·.number)
  /-- Tasks of the partition have taken them. -/
  taken : ∀ h ∈ begun, ∃ n t, c.set.tasks[n]? = some t ∧ t.key = k ∧ h ∈ c.takenBy n
  /-- A message that is still to be read was handed out after them. -/
  next : ∀ ⦃n t h⦄, c.set.tasks[n]? = some t → t.key = k → toGo t = 3 → c.current? n = some h →
    ∀ earlier ∈ begun, earlier.number < h.number
  /-- The handler began last with the message that it is at. -/
  now : ∀ ⦃n h⦄, c.handles k n = true → c.current? n = some h →
    h ∈ begun ∧ ∀ earlier ∈ begun, earlier.number ≤ h.number

theorem inOrder_start (buffer : Nat) : InOrder k [] (start buffer) :=
  ⟨.nil, fun _ h => (by cases h), fun _ _ _ h => (by cases h), fun _ _ h => by cases h⟩

/-- What a task that begins to handle a message was at before. -/
theorem Leads.begins_cases (h : Leads c a c') (hc : Sound c) (hnow : c'.handles k n = true)
    (hbefore : c.handles k n = false) :
    ∃ t, c.set.tasks[n]? = some t ∧ t.key = k ∧ toGo t = 3 ∧ c'.current? n = c.current? n := by
  obtain ⟨t', ht', hkey, hhandling⟩ := handles_iff.1 hnow
  obtain ⟨t, ht, hkey', -⟩ := h.atWork_cases hc ht' (isAtWork_of_isHandling hhandling)
  have hk : t.key = k := hkey'.trans hkey
  refine ⟨t, ht, hk, ?_⟩
  obtain ⟨u, hu, hconcerns⟩ := (h.alters hc.offered).concerns ht
  obtain rfl := Option.some.inj (ht'.symm.trans hu)
  obtain ⟨visits, haccount⟩ := hc.accounts ht
  rcases hconcerns.work_cases haccount with ⟨heq, hle⟩ | ⟨-, -, -, -, hnot⟩
  · have hother : isHandling t ≠ true := fun hhandling => by
      rw [handles_iff.2 ⟨t, ht, hk, hhandling⟩] at hbefore
      cases hbefore
    unfold isHandling at hhandling hother
    rw [ne_eq, decide_eq_true_eq] at hother
    rw [decide_eq_true_eq] at hhandling
    have := toGo_le_three t
    unfold current?
    rw [heq]
    exact ⟨by omega, rfl⟩
  · rw [hhandling] at hnot
    cases hnot

section step

variable {begun : List Handout} (hin : InOrder k begun c) (h : Leads c a c') (hc : Sound c)

/-- The handler begins with one message at most. -/
theorem pairwise_begins (hone : OneAtATime k c') :
    (begins k c c').Pairwise (·.number < ·.number) := by
  refine List.pairwise_filterMap.2 (List.pairwise_lt_range.imp fun {i j} hij => ?_)
  intro h₁ hh₁ h₂ hh₂
  split at hh₁
  · next hi =>
    split at hh₂
    · next hj =>
      rw [Bool.and_eq_true] at hi hj
      exact absurd (hone hi.1 hj.1) (Nat.ne_of_lt hij)
    · cases hh₂
  · cases hh₁

include hin h hc

/-- What the handler begins with was handed out after all that it has begun with. -/
theorem InOrder.begins_later : ∀ earlier ∈ begun, ∀ late ∈ begins k c c',
    earlier.number < late.number := by
  intro earlier hearlier late hlate
  obtain ⟨n, hnow, hbefore, hcurrent⟩ := mem_begins.1 hlate
  obtain ⟨t, ht, hkey, htoGo, hsame⟩ := h.begins_cases hc hnow hbefore
  exact hin.next ht hkey htoGo (hsame ▸ hcurrent) earlier hearlier

/-- Tasks of the partition have taken what the handler has begun with. -/
theorem InOrder.taken_leads : ∀ handout ∈ begun ++ begins k c c',
    ∃ n t, c'.set.tasks[n]? = some t ∧ t.key = k ∧ handout ∈ c'.takenBy n := by
  intro handout hmem
  rcases List.mem_append.1 hmem with hmem | hmem
  · obtain ⟨n, t, ht, hkey, htaken⟩ := hin.taken handout hmem
    obtain ⟨t', ht', hconcerns⟩ := (h.alters hc.offered).concerns ht
    obtain ⟨visits, haccount⟩ := hc.accounts ht
    exact ⟨n, t', ht', hconcerns.key.trans hkey, hconcerns.takenBy_subset haccount htaken⟩
  · obtain ⟨n, hnow, -, hcurrent⟩ := mem_begins.1 hmem
    obtain ⟨t', ht', hkey, -⟩ := handles_iff.1 hnow
    exact ⟨n, t', ht', hkey, List.mem_of_getLast? hcurrent⟩

/-- A message that a task of the partition has yet to read was handed out after all that the
handler has begun with. -/
theorem InOrder.next_leads (hnumbered : Numbered c') (hsuccessive : Successive c)
    (halone : Alone k c') {handout : Handout} (ht' : c'.set.tasks[n]? = some t')
    (hkey : t'.key = k) (htoGo : toGo t' = 3) (hcurrent : c'.current? n = some handout) :
    ∀ earlier ∈ begun ++ begins k c c', earlier.number < handout.number := by
  intro earlier hearlier
  have hwork : isAtWork t' = true := by
    unfold isAtWork
    rw [htoGo]
    rfl
  rcases List.mem_append.1 hearlier with hearlier | hearlier
  · obtain ⟨t, ht, hkey', -⟩ := h.atWork_cases hc ht' hwork
    have hk : t.key = k := hkey'.trans hkey
    obtain ⟨u, hu, hconcerns⟩ := (h.alters hc.offered).concerns ht
    obtain rfl := Option.some.inj (ht'.symm.trans hu)
    obtain ⟨visits, haccount⟩ := hc.accounts ht
    unfold current? at hcurrent
    rcases hconcerns.work_cases haccount with ⟨heq, hle⟩ | ⟨taken, heq, -⟩
    · have htoGo' : toGo t = 3 := Nat.le_antisymm (toGo_le_three t) (htoGo ▸ hle)
      rw [heq] at hcurrent
      exact hin.next ht hk htoGo' hcurrent earlier hearlier
    · rw [heq, List.getLast?_concat] at hcurrent
      obtain rfl := Option.some.inj hcurrent
      obtain ⟨i, u, hu, hukey, htaken⟩ := hin.taken earlier hearlier
      exact (h.takes_in_turn hc hnumbered hsuccessive ht heq hu (hukey.trans hk.symm)).2
        earlier htaken
  · -- The task is at work, so the handler has not just begun with another message.
    obtain ⟨i, hnow, -⟩ := mem_begins.1 hearlier
    obtain ⟨u, hu, hukey, hhandling⟩ := handles_iff.1 hnow
    obtain rfl := halone.one hu ht' hukey hkey (isAtWork_of_isHandling hhandling) hwork
    obtain rfl := Option.some.inj (ht'.symm.trans hu)
    unfold isHandling at hhandling
    rw [htoGo] at hhandling
    cases hhandling

/-- The handler is at the message that it began with last. -/
theorem InOrder.now_leads (hone : OneAtATime k c') {handout : Handout}
    (hnow : c'.handles k n = true) (hcurrent : c'.current? n = some handout) :
    handout ∈ begun ++ begins k c c'
      ∧ ∀ earlier ∈ begun ++ begins k c c', earlier.number ≤ handout.number := by
  cases hbefore : c.handles k n with
  | false =>
    have hmem : handout ∈ begins k c c' := mem_begins.2 ⟨n, hnow, hbefore, hcurrent⟩
    refine ⟨List.mem_append_right _ hmem, fun earlier hearlier => ?_⟩
    rcases List.mem_append.1 hearlier with hearlier | hearlier
    · exact Nat.le_of_lt (hin.begins_later h hc earlier hearlier handout hmem)
    · obtain ⟨i, hi, -, hicurrent⟩ := mem_begins.1 hearlier
      obtain rfl := hone hi hnow
      exact Nat.le_of_eq (congrArg _ (Option.some.inj (hicurrent.symm.trans hcurrent)))
  | true =>
    -- It is at the message that it was at before, and has begun with no other.
    have hnone : begins k c c' = [] := by
      refine List.eq_nil_iff_forall_not_mem.2 fun late hlate => ?_
      obtain ⟨i, hi, hibefore, -⟩ := mem_begins.1 hlate
      obtain rfl := hone hi hnow
      rw [hbefore] at hibefore
      cases hibefore
    obtain ⟨t, ht, -, hhandling⟩ := handles_iff.1 hbefore
    obtain ⟨t', ht', hconcerns⟩ := (h.alters hc.offered).concerns ht
    obtain ⟨visits, haccount⟩ := hc.accounts ht
    rcases hconcerns.work_cases haccount with ⟨heq, -⟩ | ⟨-, -, hidle, -⟩
    · unfold current? at hcurrent
      rw [heq] at hcurrent
      rw [hnone, List.append_nil]
      exact hin.now hbefore hcurrent
    · unfold isHandling toGo at hhandling
      rw [hidle] at hhandling
      cases hhandling

/-- **Every act lets the handler begin in order**, if one task of the partition is at work
at most. -/
theorem InOrder.leads (hnumbered : Numbered c') (hsuccessive : Successive c)
    (halone : Alone k c') : InOrder k (begun ++ begins k c c') c' where
  increasing := List.pairwise_append.2
    ⟨hin.increasing, pairwise_begins halone.oneAtATime, hin.begins_later h hc⟩
  taken := hin.taken_leads h hc
  next _ _ _ ht' hkey htoGo hcurrent :=
    hin.next_leads h hc hnumbered hsuccessive halone ht' hkey htoGo hcurrent
  now _ _ hnow hcurrent := hin.now_leads h hc halone.oneAtATime hnow hcurrent

end step

theorem inOrder_run (buffer : Nat) {as : List Act} (has : Considerate k as (start buffer)) :
    InOrder k (begun k as (start buffer)) (run as (start buffer)) := by
  induction as using List.reverseRecOn with
  | nil => exact inOrder_start buffer
  | append_singleton as a ih =>
    have halone' := alone_run buffer has
    have hnumbered' := numbered_run buffer (as ++ [a])
    obtain ⟨hbefore, -⟩ := considerate_concat.1 has
    rw [begun_concat]
    rw [run_concat] at halone' hnumbered' ⊢
    exact (ih hbefore).leads (leads_act _ a) (sound_run buffer as) hnumbered'
      (successive_run buffer as) halone'

/-! ## Two messages at once -/

/-- Payloads are read, and no other call is answered yet. -/
def readsOnly : (c : Call) → Reply (Answer c)
  | .decode _ => .answer (.ok .null)
  | _ => .pending

/-- The handler gets to the message that it has before it. -/
theorem isHandling_moveTask {m : Fetched} {rest : Work (Except ConsumerError Unit)}
    (hphase : t.phase = .busy rest) (hstage : Stage m rest) (hwork : isAtWork t = true)
    (stopped : Bool) : isHandling ((moveTask stopped readsOnly t).getD t) = true := by
  cases hstage with
  | reads hpayload =>
    unfold Claim.process at hphase
    rw [hpayload] at hphase
    unfold moveTask
    rw [hphase]
    rfl
  | handles j =>
    have hwaits : moveTask stopped readsOnly t = none := by
      unfold moveTask
      rw [hphase]
      rfl
    rw [hwaits]
    unfold isHandling toGo
    rw [Option.getD_none, hphase]
    rfl
  | marks =>
    unfold isAtWork toGo at hwork
    rw [hphase] at hwork
    cases hwork
  | returned r =>
    unfold isAtWork toGo at hwork
    rw [hphase] at hwork
    cases hwork

theorem getElem?_moveOne (s : ClaimSet) (n : Nat) (reply : (c : Call) → Reply (Answer c))
    (i : Nat) : (s.moveOne n reply).tasks[i]?
      = s.tasks[i]?.map fun t => if n = i then (moveTask (s.isStopped t) reply t).getD t else t :=
  getElem?_modifyTask n _ s i

/-- A claim takes the message that was put into its channel, and the handler gets to it. -/
theorem isHandling_of_queue {s : ClaimSet} {m : Fetched} {p : Bytes} (hlive : s.cancelled = false)
    (ht : s.tasks[n]? = some { key := k, queue := [m] }) (hpayload : m.payload = some p) :
    ∃ u, ((s.moveOne n readsOnly).moveOne n readsOnly).tasks[n]? = some u ∧ u.key = k
      ∧ isHandling u = true := by
  have htakes : (s.moveOne n readsOnly).tasks[n]?
      = some { key := k, phase := .busy (Claim.process m) } := by
    rw [getElem?_moveOne, ht]
    simp [moveTask, isStopped, hlive]
  refine ⟨_, by rw [getElem?_moveOne, htakes, Option.map_some, if_pos rfl], ?_, ?_⟩
  · exact (further_moveTask _ _ _).key
  · refine isHandling_moveTask rfl (Claim.stage_process m) ?_ _
    unfold isAtWork toGo Claim.process
    rw [hpayload]
    rfl

/-- The last one is changed. -/
theorem modify_concat_length {α : Type} (l : List α) (x : α) (f : α → α) :
    (l ++ [x]).modify l.length f = l ++ [f x] := by
  induction l with
  | nil => rfl
  | cons y l ih => simp [ih]

/-- A message of a partition without a claim is put into the channel of a new one. -/
theorem exists_dispatch_eq {s : ClaimSet} {m : Fetched} (hlive : s.cancelled = false)
    (hget : s.claims.get? m.key = none) : ∃ claims, (s.dispatch m).2
      = { s with claims, tasks := s.tasks ++ [{ key := m.key, queue := [m] }], offer := none } := by
  rcases claimFor_cases m.key s with ⟨n, hn, -⟩ | ⟨-, claims, -, heq⟩
  · rw [hget] at hn
    cases hn
  · refine ⟨claims, ?_⟩
    unfold dispatch
    rw [if_neg (by simp [hlive]), heq]
    unfold settleOffer
    simp [hlive, Claim.Task.hasEnded, Claim.Phase.result?, s.buffer_pos, modifyTask,
      modify_concat_length]

/-- **The next message of a partition that was taken away** is put into the channel of a new
claim, whatever the old one is at. -/
theorem exists_new_claim (hlive : c.set.cancelled = false)
    (hget : c.set.claims.get? k = some n) (ht : c.set.tasks[n]? = some t) {m : Fetched}
    (hkey : m.key = k) : ∃ as, (run (.revoke k :: as) c).set.cancelled = false
      ∧ (run (.revoke k :: as) c).set.tasks[n]? = some { t with revoked := true }
      ∧ (run (.revoke k :: as) c).set.tasks[c.set.tasks.length]?
        = some { key := k, queue := [m] } := by
  let gone : Chronicle := (c.act (.revoke k)).act .withdraw
  have hgone : gone.set = { c.set with
      claims := c.set.claims.erase k
      tasks := c.set.tasks.modify n fun t => { t with revoked := true }
      offer := none } := by
    show (c.set.revokeOne k).withdraw = _
    unfold revokeOne
    rw [hget]
    rfl
  obtain ⟨claims, hdispatch⟩ := exists_dispatch_eq (s := gone.set) (m := m)
    (by rw [hgone]; exact hlive) (by rw [hgone, hkey]; exact Table.get?_erase_self _ _)
  have hset := (run_handOut (c := gone) m rfl (by rw [hgone])).1.trans hdispatch
  refine ⟨[.withdraw, .ask m, .find, .settle], ?_⟩
  show (run [.ask m, .find, .settle] gone).set.cancelled = false
    ∧ (run [.ask m, .find, .settle] gone).set.tasks[n]? = _
    ∧ (run [.ask m, .find, .settle] gone).set.tasks[c.set.tasks.length]? = _
  rw [hset, hgone]
  have hlength : (c.set.tasks.modify n fun t => { t with revoked := true }).length
      = c.set.tasks.length := List.length_modify _ _ _
  refine ⟨hlive, ?_, ?_⟩
  · show ((c.set.tasks.modify n fun t => { t with revoked := true }) ++ _)[n]? = _
    rw [List.getElem?_append_left (hlength ▸ (List.getElem?_eq_some_iff.1 ht).1),
      List.getElem?_modify_eq, ht]
    rfl
  · show ((c.set.tasks.modify n fun t => { t with revoked := true }) ++ _)[c.set.tasks.length]? = _
    rw [← hlength, List.getElem?_concat_length, hkey]

/-- **A partition that is taken away while its claim is at work may have two of its messages
in the hands of the handler**, whatever the next one is. -/
theorem exists_not_oneAtATime (hc : Sound c) (hlive : c.set.cancelled = false)
    (hget : c.set.claims.get? k = some n) (ht : c.set.tasks[n]? = some t)
    (hwork : isAtWork t = true) {m : Fetched} {p : Bytes} (hkey : m.key = k)
    (hpayload : m.payload = some p) : ∃ as, ¬ OneAtATime k (run (.revoke k :: as) c) := by
  obtain ⟨t', ht', htkey⟩ := hc.registered.keyed hget
  obtain rfl := Option.some.inj (ht.symm.trans ht')
  have hlt : n < c.set.tasks.length := (List.getElem?_eq_some_iff.1 ht).1
  obtain ⟨as, hlive', hold, hnew⟩ := exists_new_claim hlive hget ht hkey
  generalize c.set.tasks.length = i at hlt hnew
  -- The new claim takes the message and reads it, and the old one reads its own.
  refine ⟨as ++ [.move i readsOnly, .move i readsOnly, .move n readsOnly], fun hone => ?_⟩
  have hrun : (run (.revoke k :: (as ++ [.move i readsOnly, .move i readsOnly,
      .move n readsOnly])) c).set = (((run (.revoke k :: as) c).set.moveOne i readsOnly).moveOne i
        readsOnly).moveOne n readsOnly := by
    rw [← List.cons_append, run_append]
    rfl
  obtain ⟨u, hu, hukey, hhandling⟩ := isHandling_of_queue hlive' hnew hpayload
  refine absurd (hone (handles_iff.2 ?_) (handles_iff.2 ?_)) (Nat.ne_of_lt hlt)
  · obtain ⟨visits, haccount⟩ := hc.accounts ht
    obtain ⟨rest, hphase⟩ : ∃ rest, t.phase = .busy rest := by
      rcases isAtWork_iff.1 hwork with ⟨_, hcall⟩ | ⟨_, hcall⟩
      · obtain ⟨next, hphase⟩ := phase_of_callOf? hcall
        exact ⟨_, hphase⟩
      · obtain ⟨next, hphase⟩ := phase_of_callOf? hcall
        exact ⟨_, hphase⟩
    obtain ⟨m', -, hstage⟩ := haccount.stage hphase
    rw [hrun, getElem?_moveOne, getElem?_moveOne, getElem?_moveOne, hold]
    simp only [Option.map_some, if_neg (Nat.ne_of_gt hlt), if_pos]
    refine ⟨_, rfl, ?_, ?_⟩
    · exact (further_moveTask _ _ _).key.trans htkey
    · exact isHandling_moveTask (t := { t with revoked := true }) hphase hstage hwork _
  · rw [hrun, getElem?_moveOne, hu]
    exact ⟨u, by rw [Option.map_some, if_neg (Nat.ne_of_lt hlt)], hukey, hhandling⟩

/-! ## What a session guarantees -/

/-- The message with the highest number is the last one. -/
theorem getLast?_of_increasing {l : List Handout} {h : Handout}
    (hl : l.Pairwise (·.number < ·.number)) (hmem : h ∈ l)
    (hmax : ∀ earlier ∈ l, earlier.number ≤ h.number) : l.getLast? = some h := by
  rcases List.eq_nil_or_concat l with rfl | ⟨before, last, rfl⟩
  · cases hmem
  rw [List.concat_eq_append] at hl hmem hmax ⊢
  rcases List.mem_append.1 hmem with hbefore | hlast
  · have hlt := (List.pairwise_append.1 hl).2.2 h hbefore last (List.mem_singleton_self _)
    have hle := hmax last (List.mem_append_right _ (List.mem_singleton_self _))
    exact absurd hlt (Nat.not_lt.2 hle)
  · rw [List.getLast?_concat, List.mem_singleton.1 hlast]

/-- **What a session guarantees for the messages of a partition.** A claim takes a message
only when all other claims of the partition are at their end or were taken away, and after
all that were handed out before it and are taken at all.

As long as the partition is taken away only while its claim is not at work, the handler is at
one message at a time, and begins with them in the order in which they were handed out; the
one that it is at is the one that it began with last. But if the partition is taken away
while its claim is at work, the handler may be at two messages at once. -/
theorem handled_in_turn (buffer : Nat) (as : List Act) (k : PartitionKey) :
    let c := run as (start buffer)
    let begun := begun k as (start buffer)
    (∀ a n t h, c.set.tasks[n]? = some t → t.key = k →
      (c.act a).takenBy n = c.takenBy n ++ [h] →
      ∀ i u, c.set.tasks[i]? = some u → u.key = k →
        (i ≠ n → u.hasEnded = true ∨ u.revoked = true)
          ∧ ∀ earlier ∈ c.takenBy i, earlier.number < h.number)
      ∧ (Considerate k as (start buffer) →
        OneAtATime k c ∧ begun.Pairwise (·.number < ·.number)
          ∧ ∀ n, c.handles k n = true → ∃ h, c.current? n = some h ∧ begun.getLast? = some h)
      ∧ (c.set.cancelled = false → ∀ n t, c.set.claims.get? k = some n →
        c.set.tasks[n]? = some t → isAtWork t = true →
        ∀ (m : Fetched) (p : Bytes), m.key = k → m.payload = some p →
          ∃ as', ¬ OneAtATime k (run (.revoke k :: as') c)) := by
  intro c begun
  have hsound : Sound c := sound_run buffer as
  refine ⟨fun a n t h ht hkey htakes i u hu hukey => ?_, fun has => ?_,
    fun hlive n t hget ht hwork m p hkey hpayload =>
      exists_not_oneAtATime hsound hlive hget ht hwork hkey hpayload⟩
  · have hnumbered : Numbered (c.act a) := run_concat as a (start buffer) ▸ numbered_run buffer _
    exact (leads_act c a).takes_in_turn hsound hnumbered (successive_run buffer as) ht htakes hu
      (hukey.trans hkey.symm)
  · have hin : InOrder k begun c := inOrder_run buffer has
    refine ⟨(alone_run buffer has).oneAtATime, hin.increasing, fun n hn => ?_⟩
    obtain ⟨t, ht, -, hhandling⟩ := handles_iff.1 hn
    obtain ⟨h, hcurrent⟩ := hsound.exists_current ht (isAtWork_of_isHandling hhandling)
    obtain ⟨hmem, hmax⟩ := hin.now hn hcurrent
    exact ⟨h, hcurrent, getLast?_of_increasing hin.increasing hmem hmax⟩

/-- The partition is taken away when its claim has handled a message, and the next one is
handled by a new claim. -/
theorem handled_in_turn_restarted :
    let p : Fetched := ⟨"orders.v1", 0, 7, some []⟩
    let q : Fetched := ⟨"orders.v1", 0, 8, some []⟩
    let works : Nat → Act := fun n => .move n (scripted (.ok ()))
    let as : List Act := [.ask p, .find, .settle, works 0, works 0, works 0, .revoke p.key, .ask q,
      .find, .settle, works 1, works 1]
    let c := run as (start 4)
    Considerate p.key as (start 4)
      ∧ c.set.tasks.map isHandling = [false, true]
      ∧ OneAtATime p.key c
      ∧ (begun p.key as (start 4)).map (·.message) = [p, q] := by
  intro p q works as c
  have has : Considerate p.key as (start 4) := by
    refine ⟨trivial, trivial, trivial, trivial, trivial, trivial, fun _ n t hget ht => ?_, trivial,
      trivial, trivial, trivial, trivial, trivial⟩
    obtain rfl := Option.some.inj hget
    obtain rfl := Option.some.inj ht
    rfl
  obtain ⟨hone, -⟩ := (handled_in_turn 4 as p.key).2.1 has
  exact ⟨has, by decide +kernel, hone, by decide +kernel⟩

/-- **Two messages of one partition are handled at once**, which is taken away while the
handler is at the first of them; and if it is taken away while the first one is still to be
read, the handler may begin with the second one. -/
theorem handled_at_once :
    let p : Fetched := ⟨"orders.v1", 0, 7, some []⟩
    let q : Fetched := ⟨"orders.v1", 0, 8, some []⟩
    let handOut : Fetched → List Act := fun m => [.ask m, .find, .settle]
    let moves : Nat → Nat → List Act := fun n k => .replicate k (.move n readsOnly)
    let atOnce : List Act := handOut p ++ moves 0 2 ++ [.revoke p.key] ++ handOut q ++ moves 1 2
    let outOfOrder : List Act :=
      handOut p ++ moves 0 1 ++ [.revoke p.key] ++ handOut q ++ moves 1 2 ++ moves 0 1
    q.key = p.key
      ∧ (run atOnce (start 4)).set.tasks.map callOf? = [some (.handle .null), some (.handle .null)]
      ∧ ¬ OneAtATime p.key (run atOnce (start 4))
      ∧ (begun p.key outOfOrder (start 4)).map (·.message) = [q, p] := by
  refine ⟨rfl, rfl, fun hone => ?_, by decide +kernel⟩
  exact absurd (@hone 0 1 rfl rfl) (by decide)

end Chronicle

end CourierDispatch.ClaimSet
