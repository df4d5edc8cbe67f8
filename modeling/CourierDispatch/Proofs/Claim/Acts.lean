import CourierDispatch.Proofs.Claim.Chronicle

/-!
# What an act means for a task

Whatever an act is, it leaves the tasks of a session alone, starts one, or does
something to one of them (`Alters`). So a task that is there is left alone, is given a
message, or moves (`Concerns`), and of one that is not there yet nothing is noted
(`Unborn`). All that is shown of tasks over the run of a session is shown by these few
cases, whichever acts there are.
-/

namespace CourierDispatch.ClaimSet

open Claim (Call Answer)

namespace Chronicle

variable {c c' : Chronicle} {n : Nat} {t t' : Claim.Task}

/-! ## What an act does to the tasks -/

/-- Nothing more is noted of tasks. -/
def SameNotes (c c' : Chronicle) : Prop :=
  c'.sent = c.sent ∧ c'.taken = c.taken ∧ c'.made = c.made

/-- **What an act can do to the tasks of a session**, and what is noted of it. -/
inductive Alters (c c' : Chronicle) : Prop where
  /-- They are left alone. -/
  | keeps (htasks : c'.set.tasks = c.set.tasks) (hnotes : SameNotes c c')
  /-- One is started. -/
  | starts (key : PartitionKey) (htasks : c'.set.tasks = c.set.tasks ++ [{ key := key }])
      (hnotes : SameNotes c c')
  /-- Its result is reported, or it is told to stop. -/
  | touches {i : Nat} {f : Claim.Task → Claim.Task}
      (htasks : c'.set.tasks = c.set.tasks.modify i f)
      (hf : ∀ t, (f t).key = t.key ∧ (f t).queue = t.queue ∧ (f t).phase = t.phase
        ∧ (t.revoked = true → (f t).revoked = true)) (hnotes : SameNotes c c')
  /-- A message of its partition is put into the channel of one. -/
  | puts {i : Nat} {t : Claim.Task} {h : Handout} (ht : c.set.tasks[i]? = some t)
      (hkey : h.message.key = t.key)
      (htasks : c'.set.tasks
        = c.set.tasks.modify i fun t => { t with queue := t.queue ++ [h.message] })
      (hsent : c'.sent = c.sent ++ [(i, h)]) (htaken : c'.taken = c.taken)
      (hmade : c'.made = c.made)
  /-- One moves. -/
  | moves {i : Nat} {t t' : Claim.Task} {m : Option Fetched}
      {call : Option (Answered Call Answer)} (ht : c.set.tasks[i]? = some t)
      (hmoves : Moves (c.set.isStopped t) t m call t')
      (htasks : c'.set.tasks = c.set.tasks.modify i fun _ => t') (hsent : c'.sent = c.sent)
      (htaken : c'.taken = c.taken ++ m.toList.map (i, ·))
      (hmade : c'.made = c.made ++ call.toList.map (i, ·))

/-- **The message that waits for room is the one that is being handed out**, and waits
for a task of its partition. -/
def Offered (c : Chronicle) : Prop :=
  ∀ ⦃n : Nat⦄ ⦃m : Fetched⦄, c.set.offer = some (n, m) →
    (∃ h, c.turn = some h ∧ h.message = m) ∧ ∃ t, c.set.tasks[n]? = some t ∧ t.key = m.key

theorem alters_move (i : Nat) (reply : (c : Call) → Reply (Answer c)) :
    Alters c (c.move i reply) := by
  cases ht : c.set.tasks[i]? with
  | none =>
    have htasks : (c.move i reply).set.tasks = c.set.tasks :=
      List.modify_eq_self (by rwa [← List.getElem?_eq_none_iff])
    refine .keeps htasks ⟨rfl, ?_, ?_⟩
    · unfold move
      rw [ht]
      exact List.append_nil _
    · unfold move
      rw [ht]
      exact List.append_nil _
  | some t =>
    refine .moves ht (moves_moveTask _ reply t) ?_ rfl ?_ ?_
    · refine congrArg tasks (modifyTask_congr (s := c.set) fun t' ht' => ?_)
      rw [Option.some.inj (ht'.symm.trans ht)]
    · unfold move
      rw [ht]
      rfl
    · unfold move
      rw [ht]
      rfl

/-- **An act leaves the tasks alone, starts one, or does something to one.** -/
theorem Leads.alters {a : Act} (h : Leads c a c') (hc : c.Offered) : Alters c c' := by
  cases h with
  | starts _ _ _ => exact .starts _ rfl ⟨rfl, rfl, rfl⟩
  | puts hturn hoffer ht =>
    obtain ⟨⟨h', hh', rfl⟩, t', ht', hkey⟩ := hc hoffer
    obtain rfl := Option.some.inj (hturn.symm.trans hh')
    exact .puts ht' hkey.symm rfl rfl rfl rfl
  | joins i => exact .touches rfl (fun _ => ⟨rfl, rfl, rfl, id⟩) ⟨rfl, rfl, rfl⟩
  | revokes key =>
    unfold revokeOne
    split
    · exact .touches rfl (fun _ => ⟨rfl, rfl, rfl, fun _ => rfl⟩) ⟨rfl, rfl, rfl⟩
    · exact .keeps rfl ⟨rfl, rfl, rfl⟩
  | moves i reply => exact alters_move i reply
  | _ => exact .keeps rfl ⟨rfl, rfl, rfl⟩

/-! ## What an act means for one task -/

/-- **What an act means for a task**, by what is noted of it. -/
inductive Concerns (c c' : Chronicle) (n : Nat) (t t' : Claim.Task) : Prop where
  /-- It is left alone, or told to stop. -/
  | spared (hkey : t'.key = t.key) (hqueue : t'.queue = t.queue) (hphase : t'.phase = t.phase)
      (hrevoked : t.revoked = true → t'.revoked = true)
      (hsent : ofTask n c'.sent = ofTask n c.sent) (htaken : ofTask n c'.taken = ofTask n c.taken)
      (hmade : ofTask n c'.made = ofTask n c.made)
  /-- A message of its partition is put into its channel. -/
  | given {h : Handout} (hkey : h.message.key = t.key)
      (ht' : t' = { t with queue := t.queue ++ [h.message] })
      (hsent : ofTask n c'.sent = ofTask n c.sent ++ [h])
      (htaken : ofTask n c'.taken = ofTask n c.taken)
      (hmade : ofTask n c'.made = ofTask n c.made)
  /-- It moves. -/
  | moved {m : Option Fetched} {call : Option (Answered Call Answer)}
      (hmoves : Moves (c.set.isStopped t) t m call t')
      (hsent : ofTask n c'.sent = ofTask n c.sent)
      (htaken : ofTask n c'.taken = ofTask n c.taken ++ m.toList)
      (hmade : ofTask n c'.made = ofTask n c.made ++ call.toList)

/-- A task of which nothing is noted is left alone, or told to stop. -/
theorem SameNotes.spared (h : SameNotes c c') (hkey : t'.key = t.key) (hqueue : t'.queue = t.queue)
    (hphase : t'.phase = t.phase) (hrevoked : t.revoked = true → t'.revoked = true) :
    Concerns c c' n t t' := by
  obtain ⟨hsent, htaken, hmade⟩ := h
  exact .spared hkey hqueue hphase hrevoked (by rw [hsent]) (by rw [htaken]) (by rw [hmade])

/-- **A task is left alone, is given a message, or moves.** -/
theorem Alters.concerns (h : Alters c c') (ht : c.set.tasks[n]? = some t) :
    ∃ t', c'.set.tasks[n]? = some t' ∧ Concerns c c' n t t' := by
  have hmodify : ∀ i f, (c.set.tasks.modify i f)[n]? = some (if i = n then f t else t) := by
    intro i f
    rw [List.getElem?_modify, ht]
    rfl
  cases h with
  | keeps htasks hnotes => exact ⟨t, htasks ▸ ht, hnotes.spared rfl rfl rfl id⟩
  | starts key htasks hnotes =>
    refine ⟨t, ?_, hnotes.spared rfl rfl rfl id⟩
    rw [htasks, List.getElem?_append_left (List.getElem?_eq_some_iff.1 ht).1, ht]
  | @touches i _ htasks hf hnotes =>
    obtain ⟨hkey, hqueue, hphase, hrevoked⟩ := hf t
    refine ⟨_, htasks ▸ hmodify i _, ?_⟩
    split
    · exact hnotes.spared hkey hqueue hphase hrevoked
    · exact hnotes.spared rfl rfl rfl id
  | @puts i u h hu hkey htasks hsent htaken hmade =>
    refine ⟨_, htasks ▸ hmodify i _, ?_⟩
    have hsent' : ofTask n c'.sent = ofTask n c.sent ++ if i = n then [h] else [] := by
      rw [hsent, ofTask_append]
      exact congrArg _ (ofTask_map n i [h])
    by_cases hi : i = n
    · subst hi
      obtain rfl := Option.some.inj (hu.symm.trans ht)
      rw [if_pos rfl] at hsent' ⊢
      exact .given hkey rfl hsent' (by rw [htaken]) (by rw [hmade])
    · rw [if_neg hi, List.append_nil] at hsent'
      rw [if_neg hi]
      exact .spared rfl rfl rfl id hsent' (by rw [htaken]) (by rw [hmade])
  | @moves i u t' m call hu hmoves htasks hsent htaken hmade =>
    refine ⟨_, htasks ▸ hmodify i _, ?_⟩
    have htaken' := congrArg (ofTask n) htaken
    have hmade' := congrArg (ofTask n) hmade
    rw [ofTask_append, ofTask_map] at htaken' hmade'
    by_cases hi : i = n
    · subst hi
      obtain rfl := Option.some.inj (hu.symm.trans ht)
      rw [if_pos rfl] at htaken' hmade' ⊢
      exact .moved hmoves (by rw [hsent]) htaken' hmade'
    · rw [if_neg hi, List.append_nil] at htaken' hmade'
      rw [if_neg hi]
      exact .spared rfl rfl rfl id (by rw [hsent]) htaken' hmade'

/-- **A task that is not there yet** may be started, and nothing is noted of it. -/
structure Unborn (c c' : Chronicle) (n : Nat) : Prop where
  /-- It has just been started if it is there. -/
  started : ∀ t, c'.set.tasks[n]? = some t → ∃ key, t = { key := key }
  /-- No message was put into its channel. -/
  sent : ofTask n c'.sent = ofTask n c.sent
  /-- It has taken none. -/
  taken : ofTask n c'.taken = ofTask n c.taken
  /-- It has made no call. -/
  made : ofTask n c'.made = ofTask n c.made

theorem SameNotes.unborn (h : SameNotes c c')
    (hstarted : ∀ t, c'.set.tasks[n]? = some t → ∃ key, t = { key := key }) : Unborn c c' n := by
  obtain ⟨hsent, htaken, hmade⟩ := h
  exact ⟨hstarted, by rw [hsent], by rw [htaken], by rw [hmade]⟩

/-- **Of a task that is not there nothing is noted.** -/
theorem Alters.unborn (h : Alters c c') (ht : c.set.tasks[n]? = none) : Unborn c c' n := by
  have hmodify : ∀ i f t, (c.set.tasks.modify i f)[n]? = some t → ∃ key, t = { key := key } := by
    intro i f t ht'
    rw [List.getElem?_modify, ht] at ht'
    cases ht'
  have hother : ∀ {i : Nat} {t : Claim.Task}, c.set.tasks[i]? = some t → i ≠ n := by
    intro i t ht' hi
    rw [hi, ht] at ht'
    cases ht'
  cases h with
  | keeps htasks hnotes =>
    refine hnotes.unborn fun t ht' => ?_
    rw [htasks, ht] at ht'
    cases ht'
  | starts key htasks hnotes =>
    refine hnotes.unborn fun t ht' => ?_
    rcases getElem?_concat_cases (htasks ▸ ht') with ht' | ⟨-, rfl⟩
    · rw [ht] at ht'
      cases ht'
    · exact ⟨_, rfl⟩
  | touches htasks _ hnotes => exact hnotes.unborn (htasks ▸ hmodify _ _)
  | @puts i u h hu _ htasks hsent htaken hmade =>
    refine ⟨htasks ▸ hmodify i _, ?_, by rw [htaken], by rw [hmade]⟩
    have hnone : ofTask n ([h].map (i, ·)) = [] := by rw [ofTask_map, if_neg (hother hu)]
    rw [hsent, ofTask_append]
    exact (congrArg _ hnone).trans (List.append_nil _)
  | @moves i u _ _ _ hu _ htasks hsent htaken hmade =>
    refine ⟨htasks ▸ hmodify i _, by rw [hsent], ?_, ?_⟩
    · rw [htaken, ofTask_append, ofTask_map, if_neg (hother hu), List.append_nil]
    · rw [hmade, ofTask_append, ofTask_map, if_neg (hother hu), List.append_nil]

end Chronicle

end CourierDispatch.ClaimSet
