import CourierDispatch.Proofs.Claim.Succession

/-!
# Claims at work

A claim is at work while the handler is at the message that it has taken last, or has it
before it (`isAtWork`). What is left to do for a message gets less with every call
(`Stage.next`), so a claim is at work only if it was so before or has just taken a message
(`Leads.atWork_cases`).

Of the claims of a partition one is at work at most, as long as the partition is taken away
only while its claim is not at work (`Considerate`, `alone_run`).
-/

namespace CourierDispatch

namespace Claim

/-- The calls that are left to make for a message, at most. -/
def toGo : Work (Except ConsumerError Unit) → Nat
  | .call (.decode _) _ => 3
  | .call (.handle _) _ => 2
  | .call (.mark _) _ => 1
  | .done _ => 0

/-- **What can be left to do for a message.** -/
inductive Stage (m : Fetched) : Work (Except ConsumerError Unit) → Prop where
  /-- Its payload is to be read. -/
  | reads {p : Bytes} (hpayload : m.payload = some p) : Stage m (process m)
  /-- What was read is to be handled. -/
  | handles (j : Json) : Stage m (handle m j)
  /-- It is to be marked. -/
  | marks : Stage m (mark m)
  /-- Nothing. -/
  | returned (r : Except ConsumerError Unit) : Stage m (.done r)

variable {m : Fetched} {l : List (Answered Call Answer)}
  {rest rest' : Work (Except ConsumerError Unit)}

theorem stage_process (m : Fetched) : Stage m (process m) := by
  cases hpayload : m.payload with
  | none =>
    have hmark : process m = mark m := by
      unfold process
      rw [hpayload]
    exact hmark ▸ .marks
  | some p => exact .reads hpayload

/-- **An answer leads to a stage behind it.** -/
theorem Stage.next {c : Call} {next : Answer c → Work (Except ConsumerError Unit)}
    (h : Stage m rest) (hrest : rest = .call c next) (a : Answer c) :
    Stage m (next a) ∧ toGo (next a) < toGo rest := by
  cases h with
  | reads hpayload =>
    unfold process at hrest ⊢
    rw [hpayload] at hrest ⊢
    cases hrest
    cases a with
    | error e =>
      cases e with
      | registry e => exact ⟨.returned _, (by decide : 0 < 3)⟩
      | malformed e => exact ⟨.marks, (by decide : 1 < 3)⟩
      | unknownSchema id => exact ⟨.marks, (by decide : 1 < 3)⟩
    | ok j => exact ⟨.handles j, (by decide : 2 < 3)⟩
  | handles j =>
    cases hrest
    cases a with
    | error reason => exact ⟨.returned _, (by decide : 0 < 2)⟩
    | ok u => exact ⟨.marks, (by decide : 1 < 2)⟩
  | marks =>
    cases hrest
    exact ⟨.returned _, (by decide : 0 < 1)⟩
  | returned r => cases hrest

theorem Stage.of_trail (h : Stage m rest) (htrail : rest.Trail l rest') : Stage m rest' := by
  induction htrail with
  | refl _ => exact h
  | call _ ih => exact ih (h.next rfl _).1

end Claim

namespace ClaimSet

open Claim (Call Answer Work Stage)

/-! ## Tasks at work -/

/-- The calls that a task has left to make for the message that it is at, at most. -/
def toGo (t : Claim.Task) : Nat :=
  match t.phase with
  | .busy rest => Claim.toGo rest
  | _ => 0

/-- **The handler is at a message** that a task has taken. -/
def isHandling (t : Claim.Task) : Bool := toGo t = 2

/-- **The handler is at a message** that a task has taken, or has it before it. -/
def isAtWork (t : Claim.Task) : Bool := 2 ≤ toGo t

theorem isHandling_iff {t : Claim.Task} :
    isHandling t = true ↔ ∃ j, callOf? t = some (.handle j) := by
  unfold isHandling toGo callOf?
  rw [decide_eq_true_eq]
  cases t.phase with
  | idle => simp
  | ended r => simp
  | busy rest =>
    cases rest with
    | done r => simp [Claim.toGo]
    | call c next => cases c <;> simp [Claim.toGo]

theorem isAtWork_iff {t : Claim.Task} : isAtWork t = true
    ↔ (∃ p, callOf? t = some (.decode p)) ∨ ∃ j, callOf? t = some (.handle j) := by
  unfold isAtWork toGo callOf?
  rw [decide_eq_true_eq]
  cases t.phase with
  | idle => simp
  | ended r => simp
  | busy rest =>
    cases rest with
    | done r => simp [Claim.toGo]
    | call c next => cases c <;> simp [Claim.toGo]

theorem isAtWork_of_isHandling {t : Claim.Task} (h : isHandling t = true) : isAtWork t = true := by
  rw [isAtWork_iff]
  exact .inr (isHandling_iff.1 h)

theorem toGo_le_three (t : Claim.Task) : toGo t ≤ 3 := by
  unfold toGo
  cases t.phase with
  | idle => simp
  | ended r => simp
  | busy rest =>
    cases rest with
    | done r => simp [Claim.toGo]
    | call c next => cases c <;> simp [Claim.toGo]

/-- A task at work is not at its end. -/
theorem hasEnded_of_isAtWork {t : Claim.Task} (h : isAtWork t = true) : t.hasEnded = false := by
  unfold isAtWork toGo at h
  unfold Claim.Task.hasEnded
  cases hphase : t.phase with
  | ended r => simp [hphase] at h
  | idle => rfl
  | busy rest => rfl

section account

variable {sent : List Handout} {taken : List Fetched} {made : List (Answered Call Answer)}
  {t t' : Claim.Task} {visits : List Visit}

/-- A task at a message is at the one that it has taken last. -/
theorem Account.stage (h : Account sent taken made t visits)
    {rest : Work (Except ConsumerError Unit)} (hphase : t.phase = .busy rest) :
    ∃ m, taken.getLast? = some m ∧ Stage m rest := by
  have hstanding := h.standing
  rw [hphase] at hstanding
  cases hstanding with
  | @busy before v _ hover hrest =>
    refine ⟨v.message, ?_, hrest ▸ (Claim.stage_process _).of_trail v.trail⟩
    rw [h.visited, List.map_append]
    exact List.getLast?_concat

/-- **A task that takes no message has no more calls to make after an act than before.** -/
theorem Account.toGo_le (h : Account sent taken made t visits) {stopped : Bool}
    {call : Option (Answered Call Answer)} (hmoves : Moves stopped t none call t') :
    toGo t' ≤ toGo t := by
  cases hmoves with
  | rests => exact Nat.le_refl _
  | stops _ _ => exact Nat.zero_le _
  | makes hphase a =>
    obtain ⟨m, -, hstage⟩ := h.stage hphase
    have hlt := (hstage.next rfl a).2
    unfold toGo
    rw [hphase]
    exact Nat.le_of_lt hlt
  | passes _ => exact Nat.zero_le _
  | fails _ _ => exact Nat.zero_le _

end account

namespace Chronicle

variable {c c' : Chronicle} {k : PartitionKey} {n : Nat} {t t' : Claim.Task} {a : Act}

/-- **What an act means for the work of a task**: it has no more calls to make than before,
or has taken a message. -/
theorem Concerns.work_cases {visits : List Visit} (h : Concerns c c' n t t')
    (haccount : Account (ofTask n c.sent) (ofTask n c.taken) (ofTask n c.made) t visits) :
    (c'.takenBy n = c.takenBy n ∧ toGo t' ≤ toGo t)
      ∨ ∃ handout, c'.takenBy n = c.takenBy n ++ [handout] ∧ t.phase = .idle
        ∧ c.set.isStopped t = false ∧ isHandling t' = false := by
  rcases h.takes_cases haccount with ⟨heq, hphase | ⟨call, hmoves⟩⟩
    | ⟨handout, -, heq, hidle, hstopped, hphase⟩
  · refine .inl ⟨heq, Nat.le_of_eq ?_⟩
    unfold toGo
    rw [hphase]
  · exact .inl ⟨heq, haccount.toGo_le hmoves⟩
  · refine .inr ⟨handout, heq, hidle, hstopped, ?_⟩
    unfold isHandling toGo
    rw [hphase]
    unfold Claim.process
    cases handout.message.payload <;> rfl

/-- A task at a message has taken it. -/
theorem Sound.exists_current (hc : Sound c) (ht : c.set.tasks[n]? = some t)
    (hwork : isAtWork t = true) : ∃ handout, c.current? n = some handout := by
  obtain ⟨visits, haccount⟩ := hc.accounts ht
  cases hphase : t.phase with
  | busy rest =>
    obtain ⟨m, hlast, -⟩ := haccount.stage hphase
    rw [← map_takenBy haccount, List.getLast?_map] at hlast
    obtain ⟨handout, hcurrent, -⟩ := Option.map_eq_some_iff.1 hlast
    exact ⟨handout, hcurrent⟩
  | idle =>
    unfold isAtWork toGo at hwork
    simp [hphase] at hwork
  | ended r =>
    unfold isAtWork toGo at hwork
    simp [hphase] at hwork

/-! ## Taking a partition away -/

/-- The act does not take the partition away while its claim is at work. -/
def Spares (k : PartitionKey) (c : Chronicle) : Act → Prop
  | .revoke key => key = k → ∀ n t, c.set.claims.get? k = some n → c.set.tasks[n]? = some t →
    isAtWork t = false
  | _ => True

/-- **The partition is taken away only while its claim is not at work.** -/
def Considerate (k : PartitionKey) : List Act → Chronicle → Prop
  | [], _ => True
  | a :: as, c => Spares k c a ∧ Considerate k as (c.act a)

theorem considerate_concat {as : List Act} :
    Considerate k (as ++ [a]) c ↔ Considerate k as c ∧ Spares k (run as c) a := by
  induction as generalizing c with
  | nil => exact ⟨fun h => ⟨trivial, h.1⟩, fun h => ⟨h.2, trivial⟩⟩
  | cons b as ih => exact (and_congr_right fun _ => ih).trans and_assoc.symm

/-- A task that is found to be taken away was so, or has just been. -/
theorem Leads.revoked_cases (h : Leads c a c') (ht : c.set.tasks[n]? = some t)
    (ht' : c'.set.tasks[n]? = some t') (hrevoked : t'.revoked = true) :
    t.revoked = true ∨ ∃ key, a = .revoke key ∧ c.set.claims.get? key = some n := by
  have hsame : c'.set.tasks = c.set.tasks → t.revoked = true := by
    intro htasks
    rw [htasks, ht] at ht'
    rwa [Option.some.inj ht']
  have hmodify : ∀ i f, c'.set.tasks = c.set.tasks.modify i f →
      t' = if i = n then f t else t := by
    intro i f htasks
    rw [htasks, List.getElem?_modify, ht] at ht'
    exact (Option.some.inj ht').symm
  cases h with
  | starts _ _ _ =>
    refine .inl ?_
    rcases getElem?_concat_cases ht' with hold | ⟨rfl, -⟩
    · rwa [← Option.some.inj (hold.symm.trans ht)]
    · exact absurd (List.getElem?_eq_some_iff.1 ht).1 (Nat.lt_irrefl _)
  | puts _ _ _ =>
    rw [hmodify _ _ rfl] at hrevoked
    split at hrevoked <;> exact .inl hrevoked
  | joins i =>
    rw [hmodify _ _ rfl] at hrevoked
    split at hrevoked <;> exact .inl hrevoked
  | revokes key =>
    cases hget : c.set.claims.get? key with
    | none =>
      refine .inl (hsame ?_)
      show (c.set.revokeOne key).tasks = _
      unfold revokeOne
      rw [hget]
    | some i =>
      have htasks : (c.set.revokeOne key).tasks
          = c.set.tasks.modify i fun t => { t with revoked := true } := by
        unfold revokeOne
        rw [hget]
        rfl
      rw [hmodify _ _ htasks] at hrevoked
      split at hrevoked
      · next hi => exact .inr ⟨key, rfl, hi ▸ hget⟩
      · exact .inl hrevoked
  | moves i reply =>
    rw [hmodify i (fun t => (moveTask (c.set.isStopped t) reply t).getD t) rfl] at hrevoked
    split at hrevoked
    · exact .inl ((further_moveTask _ reply t).revoked ▸ hrevoked)
    · exact .inl hrevoked
  | _ => exact .inl (hsame rfl)

/-- **One task of the partition is at work at most**, and none that was taken away. -/
structure Alone (k : PartitionKey) (c : Chronicle) : Prop where
  /-- A task that was taken away is not at work. -/
  revoked : ∀ ⦃n : Nat⦄ ⦃t : Claim.Task⦄, c.set.tasks[n]? = some t → t.key = k →
    t.revoked = true → isAtWork t = false
  /-- Two tasks at work are one. -/
  one : ∀ ⦃i j : Nat⦄ ⦃t t' : Claim.Task⦄, c.set.tasks[i]? = some t → c.set.tasks[j]? = some t' →
    t.key = k → t'.key = k → isAtWork t = true → isAtWork t' = true → i = j

theorem alone_start (buffer : Nat) : Alone k (start buffer) :=
  ⟨fun _ _ h => (by cases h), fun _ _ _ _ h => by cases h⟩

/-- A task at work was at work before, or had use for messages. -/
theorem Leads.atWork_cases (h : Leads c a c') (hc : Sound c) (ht' : c'.set.tasks[n]? = some t')
    (hwork : isAtWork t' = true) :
    ∃ t, c.set.tasks[n]? = some t ∧ t.key = t'.key ∧ t.hasEnded = false
      ∧ (isAtWork t = true ∨ c.set.isStopped t = false) := by
  have halters := h.alters hc.offered
  cases ht : c.set.tasks[n]? with
  | none =>
    obtain ⟨key, rfl⟩ := (halters.unborn ht).started t' ht'
    cases hwork
  | some t =>
    obtain ⟨u, hu, hconcerns⟩ := halters.concerns ht
    obtain rfl := Option.some.inj (ht'.symm.trans hu)
    obtain ⟨visits, haccount⟩ := hc.accounts ht
    refine ⟨t, rfl, hconcerns.key.symm, ?_⟩
    rcases hconcerns.work_cases haccount with ⟨-, hle⟩ | ⟨-, -, hidle, hstopped, -⟩
    · have hbefore : isAtWork t = true := by
        unfold isAtWork at hwork ⊢
        rw [decide_eq_true_eq] at hwork ⊢
        exact Nat.le_trans hwork hle
      exact ⟨hasEnded_of_isAtWork hbefore, .inl hbefore⟩
    · refine ⟨?_, .inr hstopped⟩
      unfold Claim.Task.hasEnded
      rw [hidle]
      rfl

/-- **Whatever happens leaves one task at work**, as long as the partition is not taken away
while its claim is at work. -/
theorem Leads.alone (h : Leads c a c') (hc : Sound c) (hspares : Spares k c a)
    (halone : Alone k c) : Alone k c' where
  revoked := fun n t' ht' hkey hrevoked => by
    rw [Bool.eq_false_iff]
    intro hwork
    obtain ⟨t, ht, hkey', -, hwas⟩ := h.atWork_cases hc ht' hwork
    have hk : t.key = k := hkey'.trans hkey
    rcases h.revoked_cases ht ht' hrevoked with hrevoked | ⟨key, rfl, hget⟩
    · rcases hwas with hwas | hlive
      · rw [halone.revoked ht hk hrevoked] at hwas
        cases hwas
      · rw [(isStopped_eq_false.1 hlive).2] at hrevoked
        cases hrevoked
    · -- It has just been taken away, and did not move.
      obtain ⟨u, hu, hukey⟩ := hc.registered.keyed hget
      obtain rfl := Option.some.inj (ht.symm.trans hu)
      obtain rfl : key = k := hukey.symm.trans hk
      have hidle := hspares rfl n t hget ht
      rcases hwas with hwas | -
      · rw [hidle] at hwas
        cases hwas
      · cases h with
        | revokes _ =>
          change (c.set.revokeOne _).tasks[n]? = some t' at ht'
          unfold revokeOne at ht'
          rw [hget, getElem?_modifyTask] at ht'
          obtain ⟨u, hu', rfl⟩ := Option.map_eq_some_iff.1 ht'
          obtain rfl := Option.some.inj (ht.symm.trans hu')
          rw [if_pos rfl] at hwork
          exact absurd (hidle.symm.trans hwork) Bool.false_ne_true
  one := fun i j t₁ t₂ ht₁ ht₂ hk₁ hk₂ hwork₁ hwork₂ => by
    obtain ⟨u₁, hu₁, hkey₁, hended₁, hwas₁⟩ := h.atWork_cases hc ht₁ hwork₁
    obtain ⟨u₂, hu₂, hkey₂, hended₂, hwas₂⟩ := h.atWork_cases hc ht₂ hwork₂
    have hk₁' : u₁.key = k := hkey₁.trans hk₁
    have hk₂' : u₂.key = k := hkey₂.trans hk₂
    -- If one of them had use for messages, the other one was not taken away.
    have hkept : ∀ {i : Nat} {u : Claim.Task}, c.set.tasks[i]? = some u → u.key = k →
        (isAtWork u = true ∨ c.set.isStopped u = false) → u.revoked = false := by
      intro i u hu hk hwas
      rcases hwas with hwas | hlive
      · rw [Bool.eq_false_iff]
        intro hrevoked
        rw [halone.revoked hu hk hrevoked] at hwas
        cases hwas
      · exact (isStopped_eq_false.1 hlive).2
    have hregistered : c.set.cancelled = false → i = j := by
      intro hcancelled
      have h₁ := hc.registered.live hu₁ hended₁
        (isStopped_eq_false.2 ⟨hcancelled, hkept hu₁ hk₁' hwas₁⟩)
      have h₂ := hc.registered.live hu₂ hended₂
        (isStopped_eq_false.2 ⟨hcancelled, hkept hu₂ hk₂' hwas₂⟩)
      rw [hk₁'] at h₁
      rw [hk₂', h₁] at h₂
      exact Option.some.inj h₂
    rcases hwas₁ with hwas₁ | hlive
    · rcases hwas₂ with hwas₂ | hlive
      · exact halone.one hu₁ hu₂ hk₁' hk₂' hwas₁ hwas₂
      · exact hregistered (isStopped_eq_false.1 hlive).1
    · exact hregistered (isStopped_eq_false.1 hlive).1

theorem alone_run (buffer : Nat) {as : List Act} (has : Considerate k as (start buffer)) :
    Alone k (run as (start buffer)) := by
  induction as using List.reverseRecOn with
  | nil => exact alone_start buffer
  | append_singleton as a ih =>
    obtain ⟨has, hspares⟩ := considerate_concat.1 has
    rw [run_concat]
    exact (leads_act _ a).alone (sound_run buffer as) hspares (ih has)

end Chronicle

end ClaimSet

end CourierDispatch
