import CourierDispatch.Proofs.Claim.Consuming

/-!
# Turns

The work on the messages of a channel is told message by message, as `turns`: whose turn it
was, and the state that was found then. What is done in a turn depends on nothing else
(`Turn.done`), so that the calls of the whole work are those of its turns, one after another
(`log_work`).

When a turn comes, those before it have gone well, and the state that it finds is the one
that the work on them alone would have left; if it fails, it is the last (`Reaches`).
-/

namespace CourierDispatch.Claim

variable {σ : Type}

/-- **The turn of a message.** -/
structure Turn (σ : Type) where
  /-- The message. -/
  message : Fetched
  /-- The state that the work on it finds. -/
  found : σ

section

variable (answer : (c : Call) → σ → Answer c × σ)

namespace Turn

/-- What is done for the message. -/
def done (t : Turn σ) : Except ConsumerError Unit × Journal Unit Call Answer σ :=
  noted answer (process t.message) ⟨t.found, []⟩

/-- The calls that are made for the message, with their answers. -/
def calls (t : Turn σ) : List (Answered Call Answer) := (t.done answer).2.log ()

end Turn

/-- **The turns of messages**, until one fails or the work is stopped. -/
def turns (stopped : σ → Bool × σ) : List Fetched → σ → List (Turn σ)
  | [], _ => []
  | m :: rest, s =>
    if (stopped s).1 then []
    else
      ⟨m, (stopped s).2⟩ :: match Turn.done answer ⟨m, (stopped s).2⟩ with
        | (.error _, _) => []
        | (.ok (), j) => turns stopped rest j.state

end

variable {answer : (c : Call) → σ → Answer c × σ} {stopped : σ → Bool × σ} {m : Fetched}
  {rest messages : List Fetched} {s : σ} {t : Turn σ} {before after : List (Turn σ)}

/-! ## One turn -/

/-- **What a script does depends on nothing that was noted before it.** -/
theorem noted_eq (script : Work (Except ConsumerError Unit)) (j : Journal Unit Call Answer σ) :
    noted answer script j = ((noted answer script ⟨j.state, []⟩).1,
      ⟨(noted answer script ⟨j.state, []⟩).2.state,
        j.made ++ (noted answer script ⟨j.state, []⟩).2.made⟩) := by
  induction script generalizing j with
  | done r => exact Prod.ext rfl (congrArg (Journal.mk j.state) (List.append_nil _).symm)
  | call c next ih =>
    rw [noted_call, noted_call, Journal.note_snd, Journal.note_snd, ih, ih _ (Journal.add _ _)]
    unfold Journal.add
    dsimp only
    rw [List.nil_append, List.append_assoc]

variable (answer) in
theorem noted_process_eq (m : Fetched) (j : Journal Unit Call Answer σ) :
    (noted answer (process m) j).1 = (Turn.done answer ⟨m, j.state⟩).1
      ∧ (noted answer (process m) j).2.state = (Turn.done answer ⟨m, j.state⟩).2.state
      ∧ (noted answer (process m) j).2.log () = j.log () ++ Turn.calls answer ⟨m, j.state⟩ := by
  rw [noted_eq]
  refine ⟨rfl, rfl, ?_⟩
  unfold Turn.calls Journal.log Journal.madeBy Turn.done
  rw [List.filter_append, List.map_append]

variable (answer) in
/-- In a turn that goes well its message is marked, and otherwise none. -/
theorem Turn.marks_calls (t : Turn σ) :
    marks (t.calls answer) = if (t.done answer).1.toBool then [t.message] else [] :=
  marks_noted answer t.message ⟨t.found, []⟩

section
variable {p : Bytes} {x : σ}

/-- In the turn of a message without a payload it is marked. -/
theorem Turn.of_empty (hpayload : t.message.payload = none) :
    (t.done answer).1 = .ok () ∧ handles (t.calls answer) = [] := by
  unfold Turn.calls Turn.done process
  rw [hpayload]
  exact ⟨rfl, rfl⟩

/-- So it is in the turn of one that cannot be read. -/
theorem Turn.of_unreadable {e : DecodeError} (hpayload : t.message.payload = some p)
    (hanswer : answer (.decode p) t.found = (.error e, x)) (he : ∀ e', e ≠ .registry e') :
    (t.done answer).1 = .ok () ∧ handles (t.calls answer) = [] := by
  unfold Turn.calls Turn.done process
  rw [hpayload]
  dsimp only
  rw [noted_call, Journal.note_snd, hanswer]
  cases e with
  | registry e => exact absurd rfl (he e)
  | malformed e => exact ⟨rfl, rfl⟩
  | unknownSchema id => exact ⟨rfl, rfl⟩

/-- If the registry cannot be asked, nothing else is done. -/
theorem Turn.of_unasked {e : RegistryError} (hpayload : t.message.payload = some p)
    (hanswer : answer (.decode p) t.found = (.error (.registry e), x)) :
    (t.done answer).1 = .error (.registry e) ∧ (t.done answer).2.state = x
      ∧ t.calls answer = [⟨.decode p, .error (.registry e)⟩] := by
  unfold Turn.calls Turn.done process
  rw [hpayload]
  dsimp only
  rw [noted_call, Journal.note_snd, hanswer]
  exact ⟨rfl, rfl, rfl⟩

/-- What was read is handled. -/
theorem Turn.of_read {json : Json} (hpayload : t.message.payload = some p)
    (hanswer : answer (.decode p) t.found = (.ok json, x)) :
    handles (t.calls answer) = [json] := by
  unfold Turn.calls Turn.done process
  rw [hpayload]
  dsimp only
  rw [noted_call, Journal.note_snd, hanswer]
  unfold handle Journal.add
  dsimp only
  rw [noted_call, Journal.note_snd]
  cases (answer (.handle json) x).1 with
  | error reason => rfl
  | ok u => rfl

end

/-! ## All turns -/

theorem turns_of_stopped (h : (stopped s).1 = true) :
    turns answer stopped (m :: rest) s = [] := by
  unfold turns
  rw [if_pos h]

theorem turns_of_failed {e : ConsumerError} (h : (stopped s).1 = false)
    (hfailed : (Turn.done answer ⟨m, (stopped s).2⟩).1 = .error e) :
    turns answer stopped (m :: rest) s = [⟨m, (stopped s).2⟩] := by
  unfold turns
  rw [h, if_neg (by simp)]
  cases hdone : Turn.done answer ⟨m, (stopped s).2⟩ with
  | mk r j =>
    rw [hdone] at hfailed
    obtain rfl : r = .error e := hfailed
    rfl

theorem turns_of_passed (h : (stopped s).1 = false)
    (hpassed : (Turn.done answer ⟨m, (stopped s).2⟩).1 = .ok ()) :
    turns answer stopped (m :: rest) s = ⟨m, (stopped s).2⟩
      :: turns answer stopped rest (Turn.done answer ⟨m, (stopped s).2⟩).2.state := by
  rw [turns, h, if_neg (by simp)]
  cases hdone : Turn.done answer ⟨m, (stopped s).2⟩ with
  | mk r j =>
    rw [hdone] at hpassed
    obtain rfl : r = .ok () := hpassed
    rfl

/-- **All that a turn can be**: it is the turn of the first message, and either it fails and is
the last, or the turns of the others follow. -/
theorem turns_eq_cons (h : turns answer stopped messages s = t :: after) :
    ∃ m rest, messages = m :: rest ∧ (stopped s).1 = false ∧ t = ⟨m, (stopped s).2⟩
      ∧ ((∃ e, (t.done answer).1 = .error e ∧ after = [])
        ∨ ((t.done answer).1 = .ok ()
          ∧ after = turns answer stopped rest (t.done answer).2.state)) := by
  cases messages with
  | nil => cases h
  | cons m rest =>
    cases hstop : (stopped s).1 with
    | true =>
      rw [turns_of_stopped hstop] at h
      cases h
    | false =>
      cases hdone : (Turn.done answer ⟨m, (stopped s).2⟩).1 with
      | error e =>
        rw [turns_of_failed hstop hdone] at h
        obtain ⟨rfl, rfl⟩ := List.cons.inj h
        exact ⟨m, rest, rfl, rfl, rfl, .inl ⟨e, hdone, rfl⟩⟩
      | ok u =>
        rw [turns_of_passed hstop hdone] at h
        obtain ⟨rfl, rfl⟩ := List.cons.inj h
        exact ⟨m, rest, rfl, rfl, rfl, .inr ⟨hdone, rfl⟩⟩

section
variable {j : Journal Unit Call Answer σ} (closed : Bool) (rest : List Fetched)

theorem work_of_stopped (h : (stopped j.state).1 = true) :
    work answer stopped closed (m :: rest) j = (some (.ok ()), look stopped j) := by
  rw [work_cons, if_pos h]

/-- The work ends with a turn that fails. -/
theorem work_of_failed {e : ConsumerError} (h : (stopped j.state).1 = false)
    (hfailed : (Turn.done answer ⟨m, (stopped j.state).2⟩).1 = .error e) :
    ∃ j', work answer stopped closed (m :: rest) j = (some (.error e), j')
      ∧ j'.state = (Turn.done answer ⟨m, (stopped j.state).2⟩).2.state
      ∧ j'.log () = j.log () ++ Turn.calls answer ⟨m, (stopped j.state).2⟩ := by
  obtain ⟨hresult, hstate, hlog⟩ := noted_process_eq answer m (look stopped j)
  refine ⟨_, ?_, hstate, hlog⟩
  rw [work_cons, h, if_neg (by simp)]
  cases hdone : noted answer (process m) (look stopped j) with
  | mk r j' =>
    rw [hdone] at hresult
    obtain rfl : r = .error e := hresult.trans hfailed
    rfl

/-- It goes on after a turn that goes well. -/
theorem work_of_passed (h : (stopped j.state).1 = false)
    (hpassed : (Turn.done answer ⟨m, (stopped j.state).2⟩).1 = .ok ()) :
    ∃ j', work answer stopped closed (m :: rest) j = work answer stopped closed rest j'
      ∧ j'.state = (Turn.done answer ⟨m, (stopped j.state).2⟩).2.state
      ∧ j'.log () = j.log () ++ Turn.calls answer ⟨m, (stopped j.state).2⟩ := by
  obtain ⟨hresult, hstate, hlog⟩ := noted_process_eq answer m (look stopped j)
  refine ⟨_, ?_, hstate, hlog⟩
  rw [work_cons, h, if_neg (by simp)]
  cases hdone : noted answer (process m) (look stopped j) with
  | mk r j' =>
    rw [hdone] at hresult
    obtain rfl : r = .ok () := hresult.trans hpassed
    rfl

end

variable (answer stopped) in
/-- **The calls of the work are those of its turns.** -/
theorem log_work (closed : Bool) (messages : List Fetched) (j : Journal Unit Call Answer σ) :
    (work answer stopped closed messages j).2.log ()
      = j.log () ++ (turns answer stopped messages j.state).flatMap (·.calls answer) := by
  induction messages generalizing j with
  | nil =>
    rw [work_nil]
    exact (List.append_nil _).symm
  | cons m rest ih =>
    cases hstop : (stopped j.state).1 with
    | true =>
      rw [work_of_stopped closed rest hstop, turns_of_stopped hstop]
      exact (List.append_nil _).symm
    | false =>
      cases hdone : (Turn.done answer ⟨m, (stopped j.state).2⟩).1 with
      | error e =>
        obtain ⟨j', hwork, -, hlog⟩ := work_of_failed closed rest hstop hdone
        rw [hwork, turns_of_failed hstop hdone, List.flatMap_singleton]
        exact hlog
      | ok u =>
        obtain ⟨j', hwork, hstate, hlog⟩ := work_of_passed closed rest hstop hdone
        rw [hwork, ih, hlog, hstate, turns_of_passed hstop hdone, List.flatMap_cons,
          List.append_assoc]

variable (answer stopped) in
/-- Messages have their turns in the order of the channel. -/
theorem turns_prefix (messages : List Fetched) (s : σ) :
    (turns answer stopped messages s).map (·.message) <+: messages := by
  induction messages generalizing s with
  | nil => exact List.nil_prefix
  | cons m rest ih =>
    cases hstop : (stopped s).1 with
    | true =>
      rw [turns_of_stopped hstop]
      exact List.nil_prefix
    | false =>
      cases hdone : (Turn.done answer ⟨m, (stopped s).2⟩).1 with
      | error e =>
        rw [turns_of_failed hstop hdone]
        exact ⟨rest, rfl⟩
      | ok u =>
        rw [turns_of_passed hstop hdone]
        exact List.cons_prefix_cons.2 ⟨rfl, ih _⟩

/-- **The turn of a message comes** after those of others. -/
structure Reaches (answer : (c : Call) → σ → Answer c × σ) (stopped : σ → Bool × σ)
    (messages : List Fetched) (s : σ) (before : List (Turn σ)) (t : Turn σ)
    (after : List (Turn σ)) : Prop where
  /-- The others stand before it. -/
  parted : ∃ rest, messages = before.map (·.message) ++ t.message :: rest
  /-- They went well. -/
  passed : ∀ u ∈ before, (u.done answer).1 = .ok ()
  /-- Alone they have the same turns. -/
  turns_eq : turns answer stopped (before.map (·.message)) s = before
  /-- It finds what the work on them alone leaves. -/
  found : ∀ closed j, j.state = s →
    (work answer stopped closed (before.map (·.message)) j).2.state = t.found
  /-- If it fails, so does the work, and there it ends. -/
  failed : ∀ e closed j, j.state = s → (t.done answer).1 = .error e → after = []
    ∧ (work answer stopped closed messages j).1 = some (.error e)
    ∧ (work answer stopped closed messages j).2.state = (t.done answer).2.state

theorem reaches_of_turns (h : turns answer stopped messages s = before ++ t :: after) :
    Reaches answer stopped messages s before t after := by
  -- By the turns before, all of which have gone well: behind one that fails there is none.
  induction before generalizing messages s with
  | nil =>
    obtain ⟨m, rest, rfl, hstop, rfl, hthen⟩ := turns_eq_cons h
    refine ⟨⟨rest, rfl⟩, by simp, rfl, ?_, ?_⟩
    · rintro closed j rfl
      rw [List.map_nil, work_nil]
      rfl
    · rintro e closed j rfl hdone
      obtain ⟨j', hwork, hstate, -⟩ := work_of_failed closed rest hstop hdone
      rw [hwork]
      rcases hthen with ⟨-, -, rfl⟩ | ⟨hpassed, -⟩
      · exact ⟨rfl, rfl, hstate⟩
      · cases hdone.symm.trans hpassed
  | cons u before ih =>
    obtain ⟨m, rest, rfl, hstop, rfl, hthen⟩ := turns_eq_cons h
    rcases hthen with ⟨-, -, hnone⟩ | ⟨hdone, hrest⟩
    · cases List.append_eq_nil_iff.1 hnone |>.2
    · obtain ⟨⟨rest', hparted⟩, hpassed, hturns, hfound, hfailed⟩ := ih hrest.symm
      refine ⟨⟨rest', congrArg (m :: ·) hparted⟩, List.forall_mem_cons.2 ⟨hdone, hpassed⟩, ?_,
        ?_, ?_⟩
      · rw [List.map_cons, turns_of_passed hstop hdone, hturns]
      · rintro closed j rfl
        obtain ⟨j', hwork, hstate, -⟩ :=
          work_of_passed closed (before.map (·.message)) hstop hdone
        rw [List.map_cons, hwork]
        exact hfound closed j' hstate
      · rintro e closed j rfl hlast
        obtain ⟨j', hwork, hstate, -⟩ := work_of_passed closed rest hstop hdone
        rw [hwork]
        exact hfailed e closed j' hstate hlast

end CourierDispatch.Claim
