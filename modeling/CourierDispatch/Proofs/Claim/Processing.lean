import CourierDispatch.Claim.Process
import CourierDispatch.Journal

/-!
# Nothing is lost, and nothing is passed over

The work on the messages of a channel (`processAll`) is told as the list of the
messages that were taken, each with what became of it (`Taken`). The calls that were
made are those of the messages that were taken, one after another; all of these but
the last were marked, and the last was marked too unless it is the one at which the
work has failed (`claim_in_order`).

So a message is never marked past one that has to be delivered again. Whether marking
itself works is of no consequence for what follows (`processAll_withMarking`).
-/

namespace CourierDispatch.Claim

variable {σ : Type}

/-! ## What becomes of a message -/

/-- **What becomes of a message** that is taken. -/
inductive Fare where
  /-- It has no payload, and is marked, which comes to `r`. -/
  | empty (r : Except String Unit)
  /-- Its payload cannot be read, and it is marked. -/
  | unreadable (payload : Bytes) (e : DecodeError) (r : Except String Unit)
  /-- The registry could not be asked. -/
  | unresolved (payload : Bytes) (e : RegistryError)
  /-- It was handled, and is marked. -/
  | handled (payload : Bytes) (j : Json) (r : Except String Unit)
  /-- The handler has failed. -/
  | failed (payload : Bytes) (j : Json) (reason : String)

namespace Fare

/-- The payload of the message. -/
def payload? : Fare → Option Bytes
  | empty _ => none
  | unreadable p _ _ => some p
  | unresolved p _ => some p
  | handled p _ _ => some p
  | failed p _ _ => some p

/-- What was read of it. -/
def read? : Fare → Option Json
  | handled _ j _ => some j
  | failed _ j _ => some j
  | _ => none

/-- Whether the work goes on after it. -/
def passes : Fare → Bool
  | unresolved _ _ => false
  | failed _ _ _ => false
  | _ => true

/-- It can become of a message. -/
def Fits (m : Fetched) (f : Fare) : Prop :=
  m.payload = f.payload? ∧ ∀ p e r, f ≠ unreadable p (.registry e) r

/-- The calls that are made for it. -/
def calls (m : Fetched) : Fare → List (Answered Call Answer)
  | empty r => [⟨.mark m, r⟩]
  | unreadable p e r => [⟨.decode p, .error e⟩, ⟨.mark m, r⟩]
  | unresolved p e => [⟨.decode p, .error (.registry e)⟩]
  | handled p j r => [⟨.decode p, .ok j⟩, ⟨.handle j, .ok ()⟩, ⟨.mark m, r⟩]
  | failed p j reason => [⟨.decode p, .ok j⟩, ⟨.handle j, .error reason⟩]

/-- What the work on it comes to. -/
def result (m : Fetched) : Fare → Except ConsumerError Unit
  | unresolved _ e => .error (.registry e)
  | failed _ _ reason => .error (.handler m.topic m.partition m.offset reason)
  | _ => .ok ()

end Fare

/-- **A message that was taken**, with what became of it. -/
structure Taken where
  /-- The message. -/
  message : Fetched
  /-- What became of it. -/
  fare : Fare
  /-- It could become of it. -/
  fits : fare.Fits message

namespace Taken

/-- The calls that were made for it. -/
def calls (t : Taken) : List (Answered Call Answer) := t.fare.calls t.message

/-- What the work on it came to. -/
def result (t : Taken) : Except ConsumerError Unit := t.fare.result t.message

end Taken

/-- **The work on a message makes the calls of what becomes of it.** -/
theorem exists_taken_of_trail {m : Fetched} {l : List (Answered Call Answer)}
    {r : Except ConsumerError Unit} (h : (process m).Trail l (.done r)) :
    ∃ t : Taken, t.message = m ∧ t.calls = l ∧ t.result = r := by
  unfold process at h
  cases hpayload : m.payload with
  | none =>
    rw [hpayload] at h
    cases h with
    | @call _ _ marking _ _ h =>
      cases h
      exact ⟨⟨m, .empty marking, hpayload, by simp⟩, rfl, rfl, rfl⟩
  | some p =>
    rw [hpayload] at h
    cases h with
    | @call _ _ decoded _ _ h =>
      cases decoded with
      | error e =>
        cases e with
        | registry e =>
          cases h
          exact ⟨⟨m, .unresolved p e, hpayload, by simp⟩, rfl, rfl, rfl⟩
        | malformed e =>
          cases h with
          | @call _ _ marking _ _ h =>
            cases h
            exact ⟨⟨m, .unreadable p (.malformed e) marking, hpayload, by simp⟩, rfl, rfl, rfl⟩
        | unknownSchema id =>
          cases h with
          | @call _ _ marking _ _ h =>
            cases h
            exact ⟨⟨m, .unreadable p (.unknownSchema id) marking, hpayload, by simp⟩, rfl, rfl, rfl⟩
      | ok j =>
        cases h with
        | @call _ _ handled _ _ h =>
          cases handled with
          | error reason =>
            cases h
            exact ⟨⟨m, .failed p j reason, hpayload, by simp⟩, rfl, rfl, rfl⟩
          | ok u =>
            cases h with
            | @call _ _ marking _ _ h =>
              cases h
              exact ⟨⟨m, .handled p j marking, hpayload, by simp⟩, rfl, rfl, rfl⟩

/-! ## The messages of a channel -/

/-- **The work on messages, with its calls noted.** A look at the token that stops the
work may come to anything, and so may every call. -/
def work (answer : (c : Call) → σ → Answer c × σ) (stopped : σ → Bool × σ) (closed : Bool)
    (messages : List Fetched) (j : Journal Unit Call Answer σ) :
    Option (Except ConsumerError Unit) × Journal Unit Call Answer σ :=
  processAll (m := StateM (Journal Unit Call Answer σ)) (fun c j => j.note answer () c)
    (fun j => ((stopped j.state).1, { j with state := (stopped j.state).2 })) closed messages j

/-- The messages that were marked, or tried to be. -/
def marks (l : List (Answered Call Answer)) : List Fetched :=
  l.filterMap fun
  | ⟨.mark m, _⟩ => some m
  | _ => none

/-- What the handler was given. -/
def handles (l : List (Answered Call Answer)) : List Json :=
  l.filterMap fun
  | ⟨.handle j, _⟩ => some j
  | _ => none

/-- **How the work on messages ends**, after some were taken and the others left, in
a state. -/
inductive Ended (stopped : σ → Bool × σ) (closed : Bool) :
    List Taken → List Fetched → σ → Option (Except ConsumerError Unit) → Prop where
  /-- It was stopped. -/
  | stopped {taken : List Taken} {rest : List Fetched} {s s' : σ}
      (hpass : ∀ t ∈ taken, t.fare.passes = true) (hstop : stopped s = (true, s')) :
      Ended stopped closed taken rest s' (some (.ok ()))
  /-- No message is left, and there will be none. -/
  | finished {taken : List Taken} {s : σ} (hpass : ∀ t ∈ taken, t.fare.passes = true)
      (hclosed : closed = true) : Ended stopped closed taken [] s (some (.ok ()))
  /-- No message is left, and the work waits. -/
  | waiting {taken : List Taken} {s : σ} (hpass : ∀ t ∈ taken, t.fare.passes = true)
      (hclosed : closed = false) : Ended stopped closed taken [] s none
  /-- It has failed on the message that was taken last. -/
  | failed {before : List Taken} {t : Taken} {rest : List Fetched} {s : σ} {e : ConsumerError}
      (hpass : ∀ t ∈ before, t.fare.passes = true) (he : t.result = .error e) :
      Ended stopped closed (before ++ [t]) rest s (some (.error e))

theorem Ended.cons {stopped : σ → Bool × σ} {closed : Bool} {taken : List Taken}
    {rest : List Fetched} {s : σ} {r : Option (Except ConsumerError Unit)} {t : Taken}
    (h : Ended stopped closed taken rest s r) (ht : t.fare.passes = true) :
    Ended stopped closed (t :: taken) rest s r := by
  cases h with
  | stopped hpass hstop => exact .stopped (List.forall_mem_cons.2 ⟨ht, hpass⟩) hstop
  | finished hpass hclosed => exact .finished (List.forall_mem_cons.2 ⟨ht, hpass⟩) hclosed
  | waiting hpass hclosed => exact .waiting (List.forall_mem_cons.2 ⟨ht, hpass⟩) hclosed
  | @failed before last _ _ _ hpass he =>
    show Ended _ _ ((t :: before) ++ [last]) _ _ _
    exact .failed (List.forall_mem_cons.2 ⟨ht, hpass⟩) he

theorem result_eq_ok_iff (t : Taken) : t.result = .ok () ↔ t.fare.passes = true := by
  unfold Taken.result
  cases t.fare <;> simp [Fare.result, Fare.passes]

variable (answer : (c : Call) → σ → Answer c × σ) (stopped : σ → Bool × σ) (closed : Bool)

/-- A look at the token that stops the work. -/
def look (j : Journal Unit Call Answer σ) : Journal Unit Call Answer σ :=
  { j with state := (stopped j.state).2 }

/-- A script with its calls noted. -/
def noted (s : Work (Except ConsumerError Unit)) :
    StateM (Journal Unit Call Answer σ) (Except ConsumerError Unit) :=
  s.perform fun c j => j.note answer () c

theorem noted_call (c : Call) (next : Answer c → Work (Except ConsumerError Unit))
    (j : Journal Unit Call Answer σ) : noted answer (.call c next) j
      = noted answer (next (answer c j.state).1) (j.note answer () c).2 := rfl

theorem work_nil (j : Journal Unit Call Answer σ) : work answer stopped closed [] j
    = (if (stopped j.state).1 || closed then some (.ok ()) else none, look stopped j) := by
  show (if (stopped j.state).1 || closed then _ else _ : StateM _ _) (look stopped j) = _
  split <;> rfl

theorem work_cons (m : Fetched) (rest : List Fetched) (j : Journal Unit Call Answer σ) :
    work answer stopped closed (m :: rest) j
      = if (stopped j.state).1 then (some (.ok ()), look stopped j)
        else match noted answer (process m) (look stopped j) with
          | (.error e, j') => (some (.error e), j')
          | (.ok (), j') => work answer stopped closed rest j' := by
  have after {α β : Type} (x : StateM (Journal Unit Call Answer σ) α)
      (f : α → StateM (Journal Unit Call Answer σ) β) (j : Journal Unit Call Answer σ) :
      (x >>= f) j = f (x j).1 (x j).2 := rfl
  show (if (stopped j.state).1 then _ else noted answer (process m) >>= _ : StateM _ _)
    (look stopped j) = _
  split
  · rfl
  · rw [after]
    cases noted answer (process m) (look stopped j) with
    | mk r j' =>
      cases r with
      | error e => rfl
      | ok u => rfl

/-- What becomes of one message. -/
theorem exists_taken_noted (m : Fetched) (j : Journal Unit Call Answer σ) :
    ∃ t : Taken, t.message = m ∧ (noted answer (process m) j).2.log () = j.log () ++ t.calls
      ∧ t.result = (noted answer (process m) j).1 := by
  obtain ⟨l, hl, htrail⟩ := Script.exists_trail_perform_note answer () (process m) j
  obtain ⟨t, hm, rfl, hresult⟩ := exists_taken_of_trail htrail
  exact ⟨t, hm, hl, hresult⟩

/-- **The calls are those of the messages that were taken**, one after another. -/
theorem exists_taken_work (messages : List Fetched) (j : Journal Unit Call Answer σ) :
    ∃ taken rest, messages = taken.map (·.message) ++ rest
      ∧ (work answer stopped closed messages j).2.log () = j.log () ++ taken.flatMap (·.calls)
      ∧ Ended stopped closed taken rest (work answer stopped closed messages j).2.state
        (work answer stopped closed messages j).1 := by
  have hstop : ∀ j : Journal Unit Call Answer σ, (stopped j.state).1 = true →
      stopped j.state = (true, (look stopped j).state) := fun j h => by rw [← h]; rfl
  induction messages generalizing j with
  | nil =>
    rw [work_nil]
    refine ⟨[], [], rfl, (List.append_nil _).symm, ?_⟩
    cases hlook : (stopped j.state).1 with
    | true => exact .stopped (by simp) (hstop j hlook)
    | false =>
      cases hclosed : closed with
      | true => exact .finished (by simp) rfl
      | false => exact .waiting (by simp) rfl
  | cons m rest ih =>
    rw [work_cons]
    cases hlook : (stopped j.state).1 with
    | true => exact ⟨[], m :: rest, rfl, (List.append_nil _).symm, .stopped (by simp) (hstop j hlook)⟩
    | false =>
      obtain ⟨t, hm, hlog, hresult⟩ := exists_taken_noted answer m (look stopped j)
      rw [if_neg (by simp)]
      cases hone : noted answer (process m) (look stopped j) with
      | mk r j' =>
        rw [hone] at hlog hresult
        cases r with
        | error e =>
          -- The message was taken, and everything behind it stays where it is.
          have hfailed : Ended stopped closed ([] ++ [t]) rest j'.state (some (.error e)) :=
            .failed (by simp) hresult
          refine ⟨[t], rest, by rw [← hm]; rfl, ?_, hfailed⟩
          rw [List.flatMap_singleton]
          exact hlog
        | ok u =>
          obtain ⟨taken, rest', hmessages, hcalls, hended⟩ := ih j'
          refine ⟨t :: taken, rest', ?_, ?_, hended.cons ((result_eq_ok_iff t).1 hresult)⟩
          · rw [hmessages, ← hm]
            rfl
          · refine hcalls.trans ?_
            rw [List.flatMap_cons, ← List.append_assoc]
            exact congrArg (· ++ _) hlog

/-! ## What was marked and handled -/

theorem marks_calls (t : Taken) : marks t.calls = if t.fare.passes then [t.message] else [] := by
  unfold Taken.calls
  cases t.fare <;> rfl

theorem handles_calls (t : Taken) : handles t.calls = t.fare.read?.toList := by
  unfold Taken.calls
  cases t.fare <;> rfl

theorem marks_append (l l' : List (Answered Call Answer)) :
    marks (l ++ l') = marks l ++ marks l' :=
  List.filterMap_append

theorem handles_append (l l' : List (Answered Call Answer)) :
    handles (l ++ l') = handles l ++ handles l' :=
  List.filterMap_append

theorem marks_flatMap (taken : List Taken) : marks (taken.flatMap (·.calls))
    = (taken.filter (·.fare.passes)).map (·.message) := by
  induction taken with
  | nil => rfl
  | cons t rest ih =>
    rw [List.flatMap_cons, marks_append, ih, marks_calls, List.filter_cons]
    split <;> rfl

theorem handles_flatMap (taken : List Taken) : handles (taken.flatMap (·.calls))
    = taken.filterMap (·.fare.read?) := by
  induction taken with
  | nil => rfl
  | cons t rest ih =>
    rw [List.flatMap_cons, handles_append, ih, handles_calls, List.filterMap_cons]
    cases t.fare.read? <;> rfl

/-- Only the last message that was taken can be left unmarked. -/
theorem Ended.filter_passes_prefix {taken : List Taken} {rest : List Fetched} {s : σ}
    {r : Option (Except ConsumerError Unit)} (h : Ended stopped closed taken rest s r) :
    taken.filter (·.fare.passes) <+: taken := by
  have hall : ∀ l : List Taken, (∀ t ∈ l, t.fare.passes = true) →
      l.filter (·.fare.passes) <+: l := by
    intro l hl
    exact ⟨[], by rw [List.append_nil, List.filter_eq_self.2 hl]⟩
  cases h with
  | stopped hpass _ => exact hall _ hpass
  | finished hpass _ => exact hall _ hpass
  | waiting hpass _ => exact hall _ hpass
  | @failed before t _ _ e hpass he =>
    have ht : t.fare.passes = false := by
      rw [Bool.eq_false_iff, Ne, ← result_eq_ok_iff, he]
      simp
    rw [List.filter_append, List.filter_cons_of_neg (by simp [ht]), List.filter_nil,
      List.append_nil]
    exact (hall _ hpass).trans (List.prefix_append _ _)

/-! ## Marking -/

/-- The answers with others to marking; what marking does stays. -/
def withMarking (marking : Fetched → σ → Except String Unit)
    (answer : (c : Call) → σ → Answer c × σ) : (c : Call) → σ → Answer c × σ
  | .mark m, s => (marking m s, (answer (.mark m) s).2)
  | c, s => answer c s

/-- The same calls have been made, and have led to the same state. -/
def Alike (j j' : Journal Unit Call Answer σ) : Prop :=
  j.state = j'.state ∧ (j.log ()).map Sigma.fst = (j'.log ()).map Sigma.fst

variable (marking : Fetched → σ → Except String Unit) {j j' : Journal Unit Call Answer σ}
  {stopped}

theorem Alike.looked (h : Alike j j') : Alike (look stopped j) (look stopped j') :=
  ⟨congrArg (fun s => (stopped s).2) h.1, h.2⟩

theorem Alike.note (h : Alike j j') (c : Call) :
    Alike (j.note answer () c).2 (j'.note (withMarking marking answer) () c).2 := by
  rw [Journal.note_snd, Journal.note_snd]
  refine ⟨?_, ?_⟩
  · show (answer c j.state).2 = (withMarking marking answer c j'.state).2
    rw [h.1]
    cases c <;> rfl
  · rw [Journal.log_add, Journal.log_add, if_pos rfl, if_pos rfl, List.map_append, List.map_append,
      h.2]
    rfl

/-- **A script to which marking is of no consequence**: it comes to the same with
other answers to that, and makes the same calls. -/
def Blind (answer : (c : Call) → σ → Answer c × σ) (marking : Fetched → σ → Except String Unit)
    (s : Work (Except ConsumerError Unit)) : Prop :=
  ∀ ⦃j j' : Journal Unit Call Answer σ⦄, Alike j j' →
    (noted (withMarking marking answer) s j').1 = (noted answer s j).1
      ∧ Alike (noted answer s j).2 (noted (withMarking marking answer) s j').2

theorem blind_done (r : Except ConsumerError Unit) : Blind answer marking (.done r) :=
  fun _ _ h => ⟨rfl, h⟩

/-- A call with the same answers. -/
theorem blind_call {c : Call} {next : Answer c → Work (Except ConsumerError Unit)}
    (hc : ∀ s, withMarking marking answer c s = answer c s)
    (h : ∀ a, Blind answer marking (next a)) : Blind answer marking (.call c next) := by
  intro j j' hj
  have hanswer : (withMarking marking answer c j'.state).1 = (answer c j.state).1 := by
    rw [hc, hj.1]
  rw [noted_call, noted_call, hanswer]
  exact h _ (hj.note answer marking c)

/-- Marking, the last call. -/
theorem blind_mark (m : Fetched) : Blind answer marking (mark m) :=
  fun _ _ h => ⟨rfl, h.note answer marking (.mark m)⟩

theorem blind_process (m : Fetched) : Blind answer marking (process m) := by
  unfold process
  cases m.payload with
  | none => exact blind_mark answer marking m
  | some p =>
    refine blind_call answer marking (fun _ => rfl) fun decoded => ?_
    cases decoded with
    | error e =>
      cases e with
      | registry e => exact blind_done answer marking _
      | malformed e => exact blind_mark answer marking m
      | unknownSchema id => exact blind_mark answer marking m
    | ok j =>
      refine blind_call answer marking (fun _ => rfl) fun handled => ?_
      cases handled with
      | error reason => exact blind_done answer marking _
      | ok u => exact blind_mark answer marking m

/-- **Whether marking works changes nothing.** -/
theorem alike_work (messages : List Fetched) (h : Alike j j') :
    (work (withMarking marking answer) stopped closed messages j').1
        = (work answer stopped closed messages j).1
      ∧ Alike (work answer stopped closed messages j).2
        (work (withMarking marking answer) stopped closed messages j').2 := by
  induction messages generalizing j j' with
  | nil =>
    rw [work_nil, work_nil, h.1]
    exact ⟨rfl, h.looked⟩
  | cons m rest ih =>
    rw [work_cons, work_cons, h.1]
    split
    · exact ⟨rfl, h.looked⟩
    · have hlook : Alike (look stopped j) (look stopped j') := h.looked
      have hone := blind_process answer marking m hlook
      cases hfirst : noted answer (process m) (look stopped j) with
      | mk r k =>
        cases hsecond : noted (withMarking marking answer) (process m) (look stopped j') with
        | mk r' k' =>
          rw [hfirst, hsecond] at hone
          obtain ⟨hresult, halike⟩ := hone
          obtain rfl : r' = r := hresult
          cases r' with
          | error e => exact ⟨rfl, halike⟩
          | ok u => exact ih halike

/-! ## The whole of it -/

/-- **The work on the messages of a channel**, told by the messages that were taken. -/
structure InOrder (stopped : σ → Bool × σ) (closed : Bool) (messages : List Fetched)
    (result : Option (Except ConsumerError Unit)) (j : Journal Unit Call Answer σ)
    (taken : List Taken) (rest : List Fetched) : Prop where
  /-- Messages are taken in the order of the channel. -/
  order : messages = taken.map (·.message) ++ rest
  /-- The calls are those of the messages that were taken. -/
  calls : j.log () = taken.flatMap (·.calls)
  /-- Every message that was taken is marked, unless it has to come again. -/
  marked : marks (j.log ()) = (taken.filter (·.fare.passes)).map (·.message)
  /-- The handler is given every message that could be read. -/
  handled : handles (j.log ()) = taken.filterMap (·.fare.read?)
  /-- No message is marked past one that is not. -/
  no_gap : marks (j.log ()) <+: messages
  /-- The work goes on as long as there is something to do. -/
  ended : Ended stopped closed taken rest j.state result

/-- **Nothing is lost, and nothing is passed over**, whatever the calls come to and
whenever the work is stopped; and whether marking works makes no difference. -/
theorem claim_in_order (answer : (c : Call) → σ → Answer c × σ) (stopped : σ → Bool × σ)
    (closed : Bool) (messages : List Fetched) (s : σ) :
    (∃ taken rest, InOrder stopped closed messages
        (work answer stopped closed messages ⟨s, []⟩).1
        (work answer stopped closed messages ⟨s, []⟩).2 taken rest)
      ∧ ∀ marking : Fetched → σ → Except String Unit,
        (work (withMarking marking answer) stopped closed messages ⟨s, []⟩).1
            = (work answer stopped closed messages ⟨s, []⟩).1
          ∧ Alike (work answer stopped closed messages ⟨s, []⟩).2
            (work (withMarking marking answer) stopped closed messages ⟨s, []⟩).2 := by
  refine ⟨?_, fun marking => alike_work answer closed marking messages ⟨rfl, rfl⟩⟩
  obtain ⟨taken, rest, horder, hcalls, hended⟩ :=
    exists_taken_work answer stopped closed messages ⟨s, []⟩
  have hmarks := marks_flatMap taken
  have hhandles := handles_flatMap taken
  rw [Journal.log_nil, List.nil_append] at hcalls
  rw [← hcalls] at hmarks hhandles
  refine ⟨taken, rest, horder, hcalls, hmarks, hhandles, ?_, hended⟩
  rw [hmarks, horder]
  exact ((hended.filter_passes_prefix stopped closed).map _).trans (List.prefix_append _ _)

end CourierDispatch.Claim
