import CourierDispatch.Proofs.Claim.Prefixes

/-!
# Claims that are told to stop

A claim is told to stop when its partition is taken away or the session is cancelled. It
looks whether it was only between two messages. So it finishes the message that it is
at, making the calls that are left for it (`Finishes`), and takes none after it, however
long the session goes on (`finishes_run`).

A session that was closed hands out nothing any more (`Closed`). Once its tasks are at
their end it is at rest (`AtRest`), and nothing is ever done in it again. Whoever closes a
session does not come back before that (`CloseReturned`): all results are taken first, and
only a task that is at its end has one.
-/

namespace CourierDispatch.ClaimSet

open Claim (Call Answer Work Phase)

/-! ## Finishing a message -/

/-- **What a task still does that takes no more messages**: it makes the calls that are
left for the message that it is at, if it is at one. -/
structure Finishes (p : Phase) (l : List (Answered Call Answer)) (p' : Phase) : Prop where
  /-- The calls that it makes. -/
  calls : l = [] ∨ ∃ rest rest', p = .busy rest ∧ rest.Trail l rest'
  /-- It is at that message as long as it is at one. -/
  still : ∀ rest', p' = .busy rest' → ∃ rest, p = .busy rest ∧ rest.Trail l rest'

namespace Finishes

variable {p p' : Phase} {l : List (Answered Call Answer)}

theorem refl (p : Phase) : Finishes p [] p :=
  ⟨.inl rfl, fun rest' h => ⟨rest', h, .refl _⟩⟩

/-- The task is at no message any more. -/
theorem leave (h : Finishes p l p') {p'' : Phase} (hp : ∀ rest, p'' ≠ .busy rest) :
    Finishes p l p'' :=
  ⟨h.calls, fun rest hrest => absurd hrest (hp rest)⟩

/-- A call of the message is answered. -/
theorem call {c : Call} {next : Answer c → Work (Except ConsumerError Unit)}
    (h : Finishes p l (.busy (.call c next))) (a : Answer c) :
    Finishes p (l ++ [⟨c, a⟩]) (.busy (next a)) := by
  obtain ⟨rest, hp, htrail⟩ := h.still _ rfl
  refine ⟨.inr ⟨rest, next a, hp, htrail.snoc a⟩, fun rest' h => ?_⟩
  obtain rfl := Phase.busy.inj h
  exact ⟨rest, hp, htrail.snoc a⟩

end Finishes

namespace Chronicle

variable {c c' : Chronicle} {n : Nat} {t t' : Claim.Task} {a : Act}

/-- The task has no more use for messages. -/
def Stale (c : Chronicle) (t : Claim.Task) : Prop :=
  t.hasEnded = true ∨ c.set.isStopped t = true

theorem stale_iff (ht : c.set.tasks[n]? = some t) : c.Stale t ↔ c.set.isStale n = true := by
  unfold isStale Stale
  rw [ht]
  exact Bool.or_eq_true_iff.symm

/-- A task that was told to stop stays so. -/
theorem isStopped_mono (h : c.set.isStopped t = true)
    (hcancelled : c.set.cancelled = true → c'.set.cancelled = true)
    (hrevoked : t.revoked = true → t'.revoked = true) : c'.set.isStopped t' = true := by
  rcases Bool.or_eq_true_iff.1 h with h | h
  · exact Bool.or_eq_true_iff.2 (.inl (hcancelled h))
  · exact Bool.or_eq_true_iff.2 (.inr (hrevoked h))

/-- A task that has no more use for messages takes none when it moves. -/
theorem Stale.move (h : c.Stale t) {m : Option Fetched} {call : Option (Answered Call Answer)}
    (hmoves : Moves (c.set.isStopped t) t m call t')
    (hcancelled : c.set.cancelled = true → c'.set.cancelled = true) :
    c'.Stale t' ∧ m = none
      ∧ ∀ p l, Finishes p l t.phase → Finishes p (l ++ call.toList) t'.phase := by
  -- A task that is not at its end was told to stop.
  have hstop : ∀ p, t.phase = p → p.result? = none → c.set.isStopped t = true := by
    intro p hp hresult
    refine h.resolve_left fun hended => ?_
    unfold Claim.Task.hasEnded at hended
    rw [hp, hresult] at hended
    cases hended
  have hleave : ∀ p', (∀ rest, p' ≠ .busy rest) →
      ∀ p l, Finishes p l t.phase → Finishes p (l ++ []) p' := by
    intro p' hp' p l hf
    rw [List.append_nil]
    exact hf.leave hp'
  cases hmoves with
  | rests =>
    refine ⟨h.imp_right fun hs => isStopped_mono hs hcancelled id, rfl, fun p l hf => ?_⟩
    rw [Option.toList_none, List.append_nil]
    exact hf
  | stops _ _ => exact ⟨.inl rfl, rfl, hleave _ fun _ h => by cases h⟩
  | takes hphase hlive _ =>
    rw [hstop _ hphase rfl] at hlive
    cases hlive
  | makes hphase a =>
    refine ⟨.inr (isStopped_mono (hstop _ hphase rfl) hcancelled id), rfl, fun p l hf => ?_⟩
    rw [hphase] at hf
    exact hf.call a
  | passes hphase =>
    exact ⟨.inr (isStopped_mono (hstop _ hphase rfl) hcancelled id), rfl,
      hleave _ fun _ h => by cases h⟩
  | fails _ e => exact ⟨.inl rfl, rfl, hleave _ fun _ h => by cases h⟩

/-- **A task that has no more use for messages takes none**, and finishes the one that it
is at. -/
theorem Concerns.finishes (h : Concerns c c' n t t') (hstale : c.Stale t)
    (hcancelled : c.set.cancelled = true → c'.set.cancelled = true) :
    c'.Stale t' ∧ ofTask n c'.taken = ofTask n c.taken
      ∧ ∀ p l, Finishes p l t.phase → ∃ l', ofTask n c'.made = ofTask n c.made ++ l'
        ∧ Finishes p (l ++ l') t'.phase := by
  have hsame : t'.phase = t.phase → (t.revoked = true → t'.revoked = true) →
      ofTask n c'.made = ofTask n c.made →
      c'.Stale t' ∧ ∀ p l, Finishes p l t.phase → ∃ l', ofTask n c'.made = ofTask n c.made ++ l'
        ∧ Finishes p (l ++ l') t'.phase := by
    intro hphase hrevoked hmade
    refine ⟨hstale.imp (fun hended => ?_) fun hs => isStopped_mono hs hcancelled hrevoked,
      fun p l hf => ⟨[], ?_, ?_⟩⟩
    · unfold Claim.Task.hasEnded at hended ⊢
      rwa [hphase]
    · rw [List.append_nil, hmade]
    · rwa [List.append_nil, hphase]
  cases h with
  | spared _ _ hphase hrevoked _ htaken hmade =>
    obtain ⟨hstale', hfinishes⟩ := hsame hphase hrevoked hmade
    exact ⟨hstale', htaken, hfinishes⟩
  | given _ ht' _ htaken hmade =>
    obtain ⟨hstale', hfinishes⟩ := hsame (by rw [ht']) (by rw [ht']; exact id) hmade
    exact ⟨hstale', htaken, hfinishes⟩
  | moved hmoves _ htaken hmade =>
    obtain ⟨hstale', rfl, hfinishes⟩ := hstale.move hmoves hcancelled
    refine ⟨hstale', htaken.trans (List.append_nil _), fun p l hf => ⟨_, hmade, hfinishes p l hf⟩⟩

/-- **A task that was told to stop takes no more messages, ever**: it finishes the one
that it is at. -/
theorem finishes_run (hc : Sound c) (ht : c.set.tasks[n]? = some t) (hstale : c.Stale t)
    (as : List Act) :
    ∃ t' l, (run as c).set.tasks[n]? = some t' ∧ (run as c).Stale t'
      ∧ ofTask n (run as c).taken = ofTask n c.taken
      ∧ ofTask n (run as c).made = ofTask n c.made ++ l ∧ Finishes t.phase l t'.phase := by
  induction as using List.reverseRecOn with
  | nil => exact ⟨t, [], ht, hstale, rfl, (List.append_nil _).symm, .refl _⟩
  | append_singleton as a ih =>
    obtain ⟨t', l, ht', hstale', htaken, hmade, hfinishes⟩ := ih
    have hsound : Sound (run as c) := run_preserves (fun _ _ _ h hc => h.sound hc) as hc
    have hleads := leads_act (run as c) a
    obtain ⟨t'', ht'', hconcerns⟩ := (hleads.alters hsound.offered).concerns ht'
    obtain ⟨hstale'', htaken', hstep⟩ := hconcerns.finishes hstale' hleads.cancelled
    obtain ⟨l', hmade', hfinishes'⟩ := hstep t.phase l hfinishes
    rw [run_concat]
    refine ⟨t'', l ++ l', ht'', hstale'', htaken'.trans htaken, ?_, hfinishes'⟩
    rw [hmade', hmade, List.append_assoc]

/-! ## Closing a session -/

/-- **A session that was closed**: nobody hands out messages any more. -/
structure Closed (c : Chronicle) : Prop where
  /-- It was cancelled. -/
  cancelled : c.set.cancelled = true
  /-- No message is being handed out. -/
  turn : c.turn = none

/-- **A session at rest**: it was closed, and all its tasks are at their end. -/
structure AtRest (c : Chronicle) : Prop extends Closed c where
  /-- All tasks are at their end. -/
  idle : c.set.isIdle = true

/-- A session that was closed stays so. -/
theorem Leads.closed (h : Leads c a c') (hc : Closed c) : Closed c' := by
  refine ⟨h.cancelled hc.cancelled, ?_⟩
  cases h with
  | begins _ _ hlive =>
    rw [hc.cancelled] at hlive
    cases hlive
  | refused _ _ => rfl
  | loses _ => rfl
  | puts _ _ _ => rfl
  | withdraws => rfl
  | closes => rfl
  | _ => exact hc.turn

theorem isIdle_iff {s : ClaimSet} : s.isIdle = true
    ↔ ∀ ⦃n : Nat⦄ ⦃t : Claim.Task⦄, s.tasks[n]? = some t → t.hasEnded = true := by
  unfold isIdle
  rw [List.all_eq_true]
  refine ⟨fun h n t ht => h t (List.mem_of_getElem? ht), fun h t ht => ?_⟩
  obtain ⟨n, hn⟩ := List.getElem?_of_mem ht
  exact h hn

/-- What holds of all tasks, and of whatever is made of one of them, holds of all tasks
afterwards. -/
theorem forall_modifyTask {P : Claim.Task → Prop} {s : ClaimSet} {f : Claim.Task → Claim.Task}
    (hf : ∀ t, P t → P (f t)) (h : ∀ t ∈ s.tasks, P t) (n : Nat) :
    ∀ t ∈ (s.modifyTask n f).tasks, P t := by
  intro t ht
  obtain ⟨i, hi⟩ := List.getElem?_of_mem ht
  rw [getElem?_modifyTask] at hi
  obtain ⟨u, hu, rfl⟩ := Option.map_eq_some_iff.1 hi
  split
  · exact hf u (h u (List.mem_of_getElem? hu))
  · exact h u (List.mem_of_getElem? hu)

theorem isIdle_modifyTask {s : ClaimSet} {f : Claim.Task → Claim.Task}
    (hf : ∀ t, t.hasEnded = true → (f t).hasEnded = true) (h : s.isIdle = true) (n : Nat) :
    (s.modifyTask n f).isIdle = true :=
  List.all_eq_true.2 (forall_modifyTask hf (List.all_eq_true.1 h) n)

theorem phase_of_hasEnded (h : t.hasEnded = true) : ∃ r, t.phase = .ended r := by
  unfold Claim.Task.hasEnded at h
  cases hphase : t.phase with
  | ended r => exact ⟨r, rfl⟩
  | idle => rw [hphase] at h; cases h
  | busy rest => rw [hphase] at h; cases h

/-- A move in a session at rest is none. -/
theorem move_of_isIdle (h : c.set.isIdle = true) (reply : (c : Call) → Reply (Answer c)) :
    (c.move n reply).taken = c.taken ∧ (c.move n reply).made = c.made := by
  unfold move
  cases ht : c.set.tasks[n]? with
  | none => exact ⟨List.append_nil _, List.append_nil _⟩
  | some t =>
    obtain ⟨r, hr⟩ := phase_of_hasEnded (isIdle_iff.1 h ht)
    have htakes : takes? (c.set.isStopped t) t = none := by
      unfold takes?
      rw [hr]
    have hmakes : makes? reply t = none := by
      unfold makes?
      rw [hr]
    rw [Option.bind_some, Option.bind_some, htakes, hmakes]
    exact ⟨List.append_nil _, List.append_nil _⟩

/-- **Nothing is done in a session at rest**, which stays so. -/
theorem Leads.atRest (h : Leads c a c') (hc : AtRest c) :
    AtRest c' ∧ c'.taken = c.taken ∧ c'.made = c.made := by
  have hclosed := h.closed hc.toClosed
  have hidle := hc.idle
  -- No message is being handed out that could start a task.
  have hnone : ∀ {handout : Handout}, c.turn ≠ some handout := fun hturn => by
    rw [hc.turn] at hturn
    cases hturn
  cases h with
  | begins _ _ hlive =>
    rw [hc.cancelled] at hlive
    cases hlive
  | finds hturn _ => exact absurd hturn hnone
  | starts hturn _ _ => exact absurd hturn hnone
  | refused hturn _ => exact absurd hturn hnone
  | loses hturn => exact absurd hturn hnone
  | puts hturn _ _ => exact absurd hturn hnone
  | joins n =>
    refine ⟨⟨hclosed, isIdle_modifyTask ?_ hidle n⟩, rfl, rfl⟩
    exact fun _ => id
  | revokes key =>
    refine ⟨⟨hclosed, ?_⟩, rfl, rfl⟩
    show (c.set.revokeOne key).isIdle = true
    unfold revokeOne
    split
    · refine isIdle_modifyTask ?_ ?_ _
      · exact fun _ => id
      · exact hidle
    · exact hidle
  | moves n reply =>
    obtain ⟨htaken, hmade⟩ := move_of_isIdle (n := n) hidle reply
    refine ⟨⟨hclosed, ?_⟩, htaken, hmade⟩
    exact isIdle_modifyTask (fun t => (further_moveTask _ reply t).ended) hidle n
  | _ => exact ⟨⟨hclosed, hidle⟩, rfl, rfl⟩

/-- **Nothing is ever done again in a session at rest.** -/
theorem AtRest.run (h : AtRest c) (as : List Act) :
    AtRest (run as c) ∧ (run as c).taken = c.taken ∧ (run as c).made = c.made := by
  induction as using List.reverseRecOn with
  | nil => exact ⟨h, rfl, rfl⟩
  | append_singleton as a ih =>
    obtain ⟨hrest, htaken, hmade⟩ := ih
    obtain ⟨hrest', htaken', hmade'⟩ := (leads_act (Chronicle.run as c) a).atRest hrest
    rw [run_concat]
    exact ⟨hrest', htaken'.trans htaken, hmade'.trans hmade⟩

/-- A session that was closed is at rest once its tasks are at their end. -/
theorem atRest_of_close {as : List Act} (hclose : Act.close ∈ as)
    (hidle : (Chronicle.run as c).set.isIdle = true) : AtRest (Chronicle.run as c) := by
  obtain ⟨before, after, rfl⟩ := List.append_of_mem hclose
  rw [run_append] at hidle ⊢
  have hclosed : Closed (Chronicle.run after ((Chronicle.run before c).act .close)) :=
    run_preserves (fun _ _ _ h hc => h.closed hc) after ⟨rfl, rfl⟩
  exact ⟨hclosed, hidle⟩

/-- A task at rest is at no call. -/
theorem callOf?_of_hasEnded (h : t.hasEnded = true) : callOf? t = none := by
  obtain ⟨r, hr⟩ := phase_of_hasEnded h
  unfold callOf?
  rw [hr]

/-! ## The return of closing -/

/-- **Closing the session has returned**: the session was closed, and the loop in which closing
takes the result of one task after another has come to its end, where none is left. -/
structure CloseReturned (as : List Act) (c : Chronicle) : Prop where
  /-- The session was closed. -/
  closed : .close ∈ as
  /-- All results were taken. -/
  joined : ∀ t ∈ c.set.tasks, t.joined = true

/-- **Only a task that is at its end has a result to be taken.** -/
def Reported (c : Chronicle) : Prop :=
  ∀ t ∈ c.set.tasks, t.joined = true → t.hasEnded = true

theorem joined_of_moves {stopped : Bool} {m : Option Fetched}
    {call : Option (Answered Call Answer)} (h : Moves stopped t m call t') :
    t'.joined = t.joined := by
  cases h <;> rfl

theorem Leads.reported (h : Leads c a c') (hc : Reported c) : Reported c' := by
  cases h with
  | starts _ _ _ =>
    intro t ht
    rcases List.mem_append.1 ht with ht | ht
    · exact hc t ht
    · obtain rfl := List.mem_singleton.1 ht
      exact fun hjoined => by cases hjoined
  | puts _ _ _ =>
    refine forall_modifyTask ?_ hc _
    exact fun _ => id
  | joins n =>
    refine forall_modifyTask (fun t ht hjoined => ?_) hc n
    exact (Bool.or_eq_true_iff.1 hjoined).elim ht id
  | revokes key =>
    show ∀ t ∈ (c.set.revokeOne key).tasks, _
    unfold revokeOne
    split
    · refine forall_modifyTask ?_ ?_ _
      · exact fun _ => id
      · exact hc
    · exact hc
  | moves n reply =>
    refine forall_modifyTask (fun t ht hjoined => (further_moveTask _ reply t).ended (ht ?_)) hc n
    rwa [joined_of_moves (moves_moveTask _ reply t)] at hjoined
  | _ => exact hc

theorem reported_run (buffer : Nat) (as : List Act) :
    Reported (Chronicle.run as (start buffer)) :=
  run_preserves (fun _ _ _ h hc => h.reported hc) as fun _ ht => by cases ht

/-- **Once closing has returned the session is at rest.** -/
theorem CloseReturned.atRest {buffer : Nat} {as : List Act}
    (h : CloseReturned as (Chronicle.run as (start buffer))) :
    AtRest (Chronicle.run as (start buffer)) := by
  have hended : ∀ t ∈ (Chronicle.run as (start buffer)).set.tasks, t.hasEnded = true :=
    fun t ht => reported_run buffer as t ht (h.joined t ht)
  exact atRest_of_close h.closed (List.all_eq_true.2 hended)

end Chronicle

end CourierDispatch.ClaimSet
