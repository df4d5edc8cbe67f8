import CourierDispatch.Claim.Run

/-!
# A session one step at a time

The steps of a session in any order: messages are handed out, results are reported,
partitions are taken away, and every task makes its next move whenever it likes, its
call coming to whatever it comes to. What a session does when its tasks take turns
(`settle`) is one of these orders (`exists_events_settle`).
-/

namespace CourierDispatch.ClaimSet

/-- **What can happen in a session.** -/
inductive Event where
  /-- A message is handed out, unless one still waits for room. -/
  | dispatch (m : Fetched)
  /-- The message that waits for room is looked at. -/
  | settle
  /-- The result of a task is reported, if it has one. -/
  | join (n : Nat)
  /-- Partitions are taken away. -/
  | revoke (keys : List PartitionKey)
  /-- The session is cancelled. -/
  | cancel
  /-- The session is closed. -/
  | close
  /-- A task makes its next move, its call coming to `reply`. -/
  | move (n : Nat) (reply : (c : Claim.Call) → Reply (Claim.Answer c))

/-- A move of a task; it stays where it is if it cannot go on. -/
def moveOne (n : Nat) (reply : (c : Claim.Call) → Reply (Claim.Answer c)) (s : ClaimSet) :
    ClaimSet :=
  s.modifyTask n fun t => (moveTask (s.isStopped t) reply t).getD t

/-- **One step of a session.** -/
def step : Event → ClaimSet → ClaimSet
  | .dispatch m, s => if s.offer.isSome then s else (s.dispatch m).2
  | .settle, s => s.settleOffer.2
  | .join n, s => s.modifyTask n fun t => { t with joined := t.joined || t.hasEnded }
  | .revoke keys, s => s.revoke keys
  | .cancel, s => s.cancel
  | .close, s => s.close
  | .move n reply, s => s.moveOne n reply

/-- Steps one after another. -/
def run (es : List Event) (s : ClaimSet) : ClaimSet := es.foldl (fun s e => s.step e) s

theorem run_concat (es : List Event) (e : Event) (s : ClaimSet) :
    run (es ++ [e]) s = step e (run es s) := by
  unfold run
  rw [List.foldl_append]
  rfl

theorem run_append (es es' : List Event) (s : ClaimSet) :
    run (es ++ es') s = run es' (run es s) :=
  List.foldl_append

/-! ## Taking turns -/

variable {ρ : Type} (env : Surroundings ρ)

/-- Two changes of a task are one if they do the same to it. -/
theorem modifyTask_congr {n : Nat} {f g : Claim.Task → Claim.Task} {s : ClaimSet}
    (h : ∀ t, s.tasks[n]? = some t → f t = g t) : s.modifyTask n f = s.modifyTask n g := by
  have htasks : s.tasks.modify n f = s.tasks.modify n g := by
    refine List.ext_getElem? fun i => ?_
    rw [List.getElem?_modify, List.getElem?_modify]
    by_cases hi : n = i
    · subst hi
      cases ht : s.tasks[n]? with
      | none => rfl
      | some t => simp [h t ht]
    · simp [hi]
  unfold modifyTask
  rw [htasks]

/-- What follows from a call may be that the session is cancelled. -/
theorem exists_events_heed (s : ClaimSet × ρ) : ∃ es, (heed env s).1 = run es s.1 := by
  unfold heed
  split
  · exact ⟨[.cancel], rfl⟩
  · exact ⟨[], rfl⟩

/-- What a move does to a task that can go on. -/
theorem moveOne_eq {n : Nat} {reply : (c : Claim.Call) → Reply (Claim.Answer c)} {s : ClaimSet}
    {t : Claim.Task} {f : Claim.Task → Claim.Task} (ht : s.tasks[n]? = some t)
    (h : moveTask (s.isStopped t) reply t = some (f t)) :
    s.moveOne n reply = s.modifyTask n f := by
  refine modifyTask_congr fun t' ht' => ?_
  obtain rfl := Option.some.inj (ht.symm.trans ht')
  rw [h]
  rfl

/-- A task's turn is a move of the task, from which may follow that the session is
cancelled. -/
theorem exists_events_advance (n : Nat) (s : ClaimSet × ρ) :
    ∃ es, (advance env n s).2.1 = run es s.1 := by
  unfold advance
  cases ht : s.1.tasks[n]? with
  | none => exact ⟨[], rfl⟩
  | some t =>
    dsimp only
    split
    · next c next hphase =>
      have hmove : ∀ f, moveTask (s.1.isStopped t) (fun c => (env.reply n c s.2).1) t = some (f t) →
          ∀ r, ∃ es, (heed env (s.1.modifyTask n f, r)).1 = run es s.1 := by
        intro f hf r
        obtain ⟨es, hes⟩ := exists_events_heed env (s.1.modifyTask n f, r)
        refine ⟨.move n (fun c => (env.reply n c s.2).1) :: es, ?_⟩
        rw [hes, ← moveOne_eq ht hf]
        rfl
      unfold moveTask at hmove
      rw [hphase] at hmove
      dsimp only at hmove
      cases hreply : env.reply n c s.2 with
      | mk reply r =>
        rw [hreply] at hmove
        cases reply with
        | answer a => exact hmove _ rfl r
        | pending => exact exists_events_heed env (s.1, r)
        | broken reason => exact hmove _ rfl r
    · next hphase =>
      cases hmove : moveTask (s.1.isStopped t) (fun _ => .pending) t with
      | none => exact ⟨[], rfl⟩
      | some t' => exact ⟨[.move n fun _ => .pending], (moveOne_eq ht hmove).symm⟩

theorem exists_events_runTask (n fuel : Nat) (s : ClaimSet × ρ) :
    ∃ es, (runTask env n fuel s).2.1 = run es s.1 := by
  induction fuel generalizing s with
  | zero => exact ⟨[], rfl⟩
  | succ fuel ih =>
    obtain ⟨es, hes⟩ := exists_events_advance env n s
    unfold runTask
    cases hadvance : advance env n s with
    | mk moved s' =>
      rw [hadvance] at hes
      cases moved with
      | true =>
        obtain ⟨es', hes'⟩ := ih s'
        exact ⟨es ++ es', by rw [run_append, ← hes]; exact hes'⟩
      | false => exact ⟨es, hes⟩

theorem exists_events_round (s : ClaimSet × ρ) : ∃ es, (round env s).2.1 = run es s.1 := by
  unfold round
  generalize List.range s.1.tasks.length = ns
  generalize false = moved
  induction ns generalizing s moved with
  | nil => exact ⟨[], rfl⟩
  | cons n ns ih =>
    obtain ⟨es, hes⟩ := exists_events_runTask env n s.1.movesLeft s
    obtain ⟨es', hes'⟩ := ih (runTask env n s.1.movesLeft s).2 _
    refine ⟨es ++ es', ?_⟩
    rw [run_append, ← hes]
    exact hes'

theorem exists_events_rounds (fuel : Nat) (s : ClaimSet × ρ) :
    ∃ es, (rounds env fuel s).1 = run es s.1 := by
  induction fuel generalizing s with
  | zero => exact ⟨[], rfl⟩
  | succ fuel ih =>
    obtain ⟨es, hes⟩ := exists_events_round env s
    unfold rounds
    cases hround : round env s with
    | mk moved s' =>
      rw [hround] at hes
      cases moved with
      | true =>
        obtain ⟨es', hes'⟩ := ih s'
        exact ⟨es ++ es', by rw [run_append, ← hes]; exact hes'⟩
      | false => exact ⟨es, hes⟩

/-- **Tasks that take turns make their moves in one of the orders.** -/
theorem exists_events_settle (s : ClaimSet × ρ) : ∃ es, (settle env s).1 = run es s.1 :=
  exists_events_rounds env _ s

end CourierDispatch.ClaimSet
