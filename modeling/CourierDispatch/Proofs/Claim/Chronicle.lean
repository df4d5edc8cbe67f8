import CourierDispatch.Journal
import CourierDispatch.Proofs.Claim.Barrier

/-!
# What happens in a session

To hand out a message takes a while: it is asked whether the session goes on, a claim
is found or started, and the message waits for room in the channel of that claim. The
session may be cancelled between any two of these, and the tasks go on with their work.
So the steps of a session are taken apart into acts of which each happens at once
(`Act`); the steps of `step` are acts one after another (`exists_acts_run`).

A chronicle is a session together with what has happened in it: every message that was
handed out has a number, and it is noted into which channel the message was put, what
the answer was, what each task has taken, and the calls that it has made. What an act
can do to a session and to what is noted is said once (`Leads`), and so is what a move
can make of a task (`Moves`).
-/

namespace CourierDispatch.ClaimSet

open Claim (Call Answer)

/-- **What can happen at once in a session.** -/
inductive Act where
  /-- A message is to be handed out, unless another one is. -/
  | ask (m : Fetched)
  /-- The claim for the message that is handed out is found or started. -/
  | find
  /-- The message that waits for room is looked at. -/
  | settle
  /-- The message that is handed out is given up. -/
  | withdraw
  /-- The result of a task is reported, if it has one. -/
  | join (n : Nat)
  /-- A partition is taken away. -/
  | revoke (key : PartitionKey)
  /-- The session is cancelled. -/
  | cancel
  /-- The session is closed, and whoever was handing out a message has gone. -/
  | close
  /-- A task makes its next move, its call coming to `reply`. -/
  | move (n : Nat) (reply : (c : Call) → Reply (Answer c))

/-- **A message that is handed out.** -/
structure Handout where
  /-- How many were handed out before. -/
  number : Nat
  /-- The message. -/
  message : Fetched
  deriving DecidableEq

/-- The task into whose channel the message that waits for room is put when it is
looked at. -/
def admits? (s : ClaimSet) : Option Nat :=
  s.offer.bind fun (n, _) =>
    if !s.cancelled && s.tasks[n]?.any fun t => !t.hasEnded && t.queue.length < s.buffer then some n
    else none

/-- The message that a task takes when it moves. -/
def takes? (stopped : Bool) (t : Claim.Task) : Option Fetched :=
  match t.phase with
  | .idle => if stopped then none else t.queue.head?
  | _ => none

/-- The call of a task that is answered when it moves. -/
def makes? (reply : (c : Call) → Reply (Answer c)) (t : Claim.Task) :
    Option (Answered Call Answer) :=
  match t.phase with
  | .busy (.call c _) =>
    match reply c with
    | .answer a => some ⟨c, a⟩
    | _ => none
  | _ => none

/-- **A session with what has happened in it.** What concerns a task is noted with its
number. -/
structure Chronicle where
  /-- The session. -/
  set : ClaimSet
  /-- How many messages were to be handed out. -/
  asked : Nat := 0
  /-- The message that is being handed out. -/
  turn : Option Handout := none
  /-- Whether the session went on, for every message that has been handed out. -/
  answers : List (Nat × Bool) := []
  /-- The messages that were put into channels. -/
  sent : List (Nat × Handout) := []
  /-- The messages that tasks have taken. -/
  taken : List (Nat × Fetched) := []
  /-- The calls that tasks have made. -/
  made : List (Nat × Answered Call Answer) := []

namespace Chronicle

/-- A session at its start. -/
def start (buffer : Nat) : Chronicle := { set := .start buffer }

/-- A message is to be handed out. It is refused if the session was cancelled. -/
def ask (m : Fetched) (c : Chronicle) : Chronicle :=
  if c.turn.isSome then c
  else if c.set.cancelled then
    { c with asked := c.asked + 1, answers := c.answers ++ [(c.asked, false)] }
  else { c with asked := c.asked + 1, turn := some ⟨c.asked, m⟩ }

/-- The claim for the message that is handed out is found or started. -/
def find (c : Chronicle) : Chronicle :=
  match c.turn, c.set.offer with
  | some h, none =>
    let (n, set) := c.set.claimFor h.message.key
    { c with set := { set with offer := some (n, h.message) } }
  | _, _ => c

/-- The message that waits for room is looked at. -/
def settle (c : Chronicle) : Chronicle :=
  match c.turn, c.set.settleOffer with
  | some h, (some goesOn, set) =>
    { c with
      set
      turn := none
      answers := c.answers ++ [(h.number, goesOn)]
      sent := c.sent ++ c.set.admits?.toList.map (·, h) }
  | _, _ => c

/-- A task makes its next move. -/
def move (n : Nat) (reply : (c : Call) → Reply (Answer c)) (c : Chronicle) : Chronicle :=
  { c with
    set := c.set.moveOne n reply
    taken := c.taken
      ++ (c.set.tasks[n]?.bind fun t => takes? (c.set.isStopped t) t).toList.map (n, ·)
    made := c.made ++ (c.set.tasks[n]?.bind (makes? reply)).toList.map (n, ·) }

/-- **One act.** -/
def act (c : Chronicle) : Act → Chronicle
  | .ask m => c.ask m
  | .find => c.find
  | .settle => c.settle
  | .withdraw => { c with set := c.set.withdraw, turn := none }
  | .join n =>
    { c with set := c.set.modifyTask n fun t => { t with joined := t.joined || t.hasEnded } }
  | .revoke key => { c with set := c.set.revokeOne key }
  | .cancel => { c with set := c.set.cancel }
  | .close => { c with set := c.set.close, turn := none }
  | .move n reply => c.move n reply

/-- Acts one after another. -/
def run (as : List Act) (c : Chronicle) : Chronicle := as.foldl act c

theorem run_concat (as : List Act) (a : Act) (c : Chronicle) :
    run (as ++ [a]) c = (run as c).act a := by
  unfold run
  rw [List.foldl_append]
  rfl

theorem run_append (as as' : List Act) (c : Chronicle) :
    run (as ++ as') c = run as' (run as c) :=
  List.foldl_append

end Chronicle

/-- What was noted of a task. -/
def ofTask {α : Type} (n : Nat) (l : List (Nat × α)) : List α :=
  (l.filter (·.1 = n)).map Prod.snd

section ofTask

variable {α : Type}

theorem ofTask_append (n : Nat) (l l' : List (Nat × α)) :
    ofTask n (l ++ l') = ofTask n l ++ ofTask n l' := by
  unfold ofTask
  rw [List.filter_append, List.map_append]

/-- What is noted of a task is noted of no other. -/
theorem ofTask_map (n i : Nat) (l : List α) :
    ofTask n (l.map (i, ·)) = if i = n then l else [] := by
  unfold ofTask
  split
  · next h => simp [List.filter_map, Function.comp_def, h]
  · next h => simp [List.filter_map, Function.comp_def, h]

end ofTask

/-! ## What an act can do -/

/-- **What becomes of a message that waits for room** when it is looked at: the answer,
the session after it, and the task into whose channel the message was put. -/
inductive Settles (s : ClaimSet) : Option Bool × ClaimSet → Option Nat → Prop where
  /-- It goes on waiting, if there is one at all. -/
  | waits : Settles s (none, s) none
  /-- The session was cancelled. -/
  | refused (hcancelled : s.cancelled = true) : Settles s (some false, s.withdraw) none
  /-- The task has ended, and the message is lost. -/
  | lost : Settles s (some true, s.withdraw) none
  /-- It is put into the channel of the task. -/
  | put {n : Nat} {m : Fetched} {t : Claim.Task} (hoffer : s.offer = some (n, m))
      (ht : s.tasks[n]? = some t) :
      Settles s (some true, s.withdraw.modifyTask n fun t => { t with queue := t.queue ++ [m] })
        (some n)

theorem settles_settleOffer (s : ClaimSet) : Settles s s.settleOffer s.admits? := by
  unfold settleOffer admits?
  cases hoffer : s.offer with
  | none => exact .waits
  | some offer =>
    obtain ⟨n, m⟩ := offer
    dsimp only [Option.bind_some]
    split
    · next hcancelled =>
      rw [if_neg (by simp [hcancelled])]
      exact .refused hcancelled
    · next hlive =>
      cases ht : s.tasks[n]? with
      | none =>
        rw [if_neg (by simp)]
        exact .lost
      | some t =>
        dsimp only
        split
        · next hended =>
          rw [if_neg (by simp [hended])]
          exact .lost
        · next hended =>
          split
          · next hroom =>
            rw [if_pos (by simp [hlive, hended, hroom])]
            exact .put hoffer ht
          · next hroom =>
            rw [if_neg (by simp [hroom])]
            exact .waits

/-- **What a move can make of a task**: the message that it takes, the call that is
answered, and the task after it. -/
inductive Moves (stopped : Bool) (t : Claim.Task) :
    Option Fetched → Option (Answered Call Answer) → Claim.Task → Prop where
  /-- It cannot go on. -/
  | rests : Moves stopped t none none t
  /-- It was told to stop, and is at no message. -/
  | stops (hphase : t.phase = .idle) (hstop : stopped = true) :
      Moves stopped t none none { t with phase := .ended (.ok ()) }
  /-- It takes the next message. -/
  | takes {m : Fetched} {rest : List Fetched} (hphase : t.phase = .idle)
      (hstop : stopped = false) (hqueue : t.queue = m :: rest) :
      Moves stopped t (some m) none { t with queue := rest, phase := .busy (Claim.process m) }
  /-- Its call is answered. -/
  | makes {c : Call} {next : Answer c → Claim.Work (Except ConsumerError Unit)}
      (hphase : t.phase = .busy (.call c next)) (a : Answer c) :
      Moves stopped t none (some ⟨c, a⟩) { t with phase := .busy (next a) }
  /-- It is through with its message. -/
  | passes (hphase : t.phase = .busy (.done (.ok ()))) :
      Moves stopped t none none { t with phase := .idle }
  /-- It ends at its message. -/
  | fails {rest : Claim.Work (Except ConsumerError Unit)} (hphase : t.phase = .busy rest)
      (e : ConsumerError) : Moves stopped t none none { t with phase := .ended (.error e) }

theorem moves_moveTask (stopped : Bool) (reply : (c : Call) → Reply (Answer c))
    (t : Claim.Task) :
    Moves stopped t (takes? stopped t) (makes? reply t) ((moveTask stopped reply t).getD t) := by
  unfold takes? makes? moveTask
  cases hphase : t.phase with
  | idle =>
    cases hstop : stopped with
    | true => exact .stops hphase rfl
    | false =>
      cases hqueue : t.queue with
      | nil => exact .rests
      | cons m rest => exact .takes hphase rfl hqueue
  | busy rest =>
    cases rest with
    | done r =>
      cases r with
      | ok u => exact .passes hphase
      | error e => exact .fails hphase e
    | call c next =>
      dsimp only
      cases reply c with
      | answer a => exact .makes hphase a
      | pending => exact .rests
      | broken reason => exact .fails hphase (.claimAborted reason)
  | ended r => exact .rests

namespace Chronicle

variable {c c' : Chronicle}

/-- **What an act makes of a chronicle.** -/
inductive Leads (c : Chronicle) : Act → Chronicle → Prop where
  /-- Another message is being handed out. -/
  | busy (m : Fetched) : Leads c (.ask m) c
  /-- The session was cancelled before the message was to be handed out. -/
  | refusedAtOnce (m : Fetched) (hturn : c.turn = none) (hcancelled : c.set.cancelled = true) :
      Leads c (.ask m)
        { c with asked := c.asked + 1, answers := c.answers ++ [(c.asked, false)] }
  /-- The message is being handed out. -/
  | begins (m : Fetched) (hturn : c.turn = none) (hlive : c.set.cancelled = false) :
      Leads c (.ask m) { c with asked := c.asked + 1, turn := some ⟨c.asked, m⟩ }
  /-- There is no message for which a claim is to be found. -/
  | idles : Leads c .find c
  /-- There is a claim for the message. -/
  | finds {h : Handout} {n : Nat} (hturn : c.turn = some h)
      (hget : c.set.claims.get? h.message.key = some n) :
      Leads c .find { c with set := { c.set with offer := some (n, h.message) } }
  /-- A claim is started for the message. -/
  | starts {h : Handout} {claims : Table PartitionKey Nat} (hturn : c.turn = some h)
      (hstale : ∀ n, c.set.claims.get? h.message.key = some n → c.set.isStale n = true)
      (hclaims : ∀ key, claims.get? key
        = if key = h.message.key then some c.set.tasks.length else c.set.claims.get? key) :
      Leads c .find { c with
        set := { c.set with
          claims
          tasks := c.set.tasks ++ [{ key := h.message.key }]
          offer := some (c.set.tasks.length, h.message) } }
  /-- The message goes on waiting, if there is one at all. -/
  | waits : Leads c .settle c
  /-- The session was cancelled while the message was waiting. -/
  | refused {h : Handout} (hturn : c.turn = some h) (hcancelled : c.set.cancelled = true) :
      Leads c .settle
        { c with set := c.set.withdraw, turn := none, answers := c.answers ++ [(h.number, false)] }
  /-- The task for which the message was waiting has ended. -/
  | loses {h : Handout} (hturn : c.turn = some h) :
      Leads c .settle
        { c with set := c.set.withdraw, turn := none, answers := c.answers ++ [(h.number, true)] }
  /-- The message is put into a channel. -/
  | puts {h : Handout} {n : Nat} {m : Fetched} {t : Claim.Task} (hturn : c.turn = some h)
      (hoffer : c.set.offer = some (n, m)) (ht : c.set.tasks[n]? = some t) :
      Leads c .settle
        { c with
          set := c.set.withdraw.modifyTask n fun t => { t with queue := t.queue ++ [m] }
          turn := none
          answers := c.answers ++ [(h.number, true)]
          sent := c.sent ++ [(n, h)] }
  /-- The message is given up. -/
  | withdraws : Leads c .withdraw { c with set := c.set.withdraw, turn := none }
  /-- The result of a task is reported. -/
  | joins (n : Nat) :
      Leads c (.join n)
        { c with set := c.set.modifyTask n fun t => { t with joined := t.joined || t.hasEnded } }
  /-- A partition is taken away. -/
  | revokes (key : PartitionKey) : Leads c (.revoke key) { c with set := c.set.revokeOne key }
  /-- The session is cancelled. -/
  | cancels : Leads c .cancel { c with set := c.set.cancel }
  /-- The session is closed. -/
  | closes : Leads c .close { c with set := c.set.close, turn := none }
  /-- A task makes its next move. -/
  | moves (n : Nat) (reply : (c : Call) → Reply (Answer c)) :
      Leads c (.move n reply) (c.move n reply)

theorem leads_ask (m : Fetched) : Leads c (.ask m) (c.ask m) := by
  unfold ask
  split
  · exact .busy m
  · next hturn =>
    have hnone : c.turn = none := by simpa using hturn
    split
    · next hcancelled => exact .refusedAtOnce m hnone hcancelled
    · next hlive => exact .begins m hnone (Bool.eq_false_iff.2 hlive)

theorem leads_find : Leads c .find c.find := by
  unfold find
  split
  · next h hturn _ =>
    rcases claimFor_cases h.message.key c.set with
      ⟨n, hget, -, heq⟩ | ⟨hstale, claims, hclaims, heq⟩
    · rw [heq]
      exact .finds hturn hget
    · rw [heq]
      exact .starts hturn hstale hclaims
  · exact .idles

theorem leads_settle : Leads c .settle c.settle := by
  have hsettles := settles_settleOffer c.set
  unfold settle
  cases hturn : c.turn with
  | none => exact .waits
  | some h =>
    generalize c.set.settleOffer = settled at hsettles
    generalize c.set.admits? = admitted at hsettles
    cases hsettles with
    | waits => exact .waits
    | refused hcancelled =>
      simp only [Option.toList_none, List.map_nil, List.append_nil]
      exact .refused hturn hcancelled
    | lost =>
      simp only [Option.toList_none, List.map_nil, List.append_nil]
      exact .loses hturn
    | put hoffer ht => exact .puts hturn hoffer ht

/-- **This is all that an act can do.** -/
theorem leads_act (c : Chronicle) (a : Act) : Leads c a (c.act a) := by
  cases a with
  | ask m => exact leads_ask m
  | find => exact leads_find
  | settle => exact leads_settle
  | withdraw => exact .withdraws
  | join n => exact .joins n
  | revoke key => exact .revokes key
  | cancel => exact .cancels
  | close => exact .closes
  | move n reply => exact .moves n reply

/-- **What every act preserves is preserved by acts one after another.** -/
theorem run_preserves {P : Chronicle → Prop}
    (hact : ∀ ⦃c a c'⦄, Leads c a c' → P c → P c') (as : List Act) (h : P c) : P (run as c) := by
  induction as generalizing c with
  | nil => exact h
  | cons a as ih => exact ih (hact (leads_act c a) h)

/-- A cancelled session stays so. -/
theorem Leads.cancelled {a : Act} (h : Leads c a c') (hcancelled : c.set.cancelled = true) :
    c'.set.cancelled = true := by
  cases h with
  | revokes key =>
    show (c.set.revokeOne key).cancelled = true
    unfold revokeOne
    split <;> exact hcancelled
  | cancels => rfl
  | closes => rfl
  | _ => exact hcancelled

/-- An answer is not taken back. -/
theorem Leads.answers_subset {a : Act} (h : Leads c a c') : c.answers ⊆ c'.answers := by
  cases h with
  | refusedAtOnce _ _ _ => exact List.subset_append_left _ _
  | refused _ _ => exact List.subset_append_left _ _
  | loses _ => exact List.subset_append_left _ _
  | puts _ _ _ => exact List.subset_append_left _ _
  | _ => exact List.Subset.refl _

end Chronicle

/-! ## Steps are acts -/

theorem offer_revokeOne (key : PartitionKey) (s : ClaimSet) :
    (s.revokeOne key).offer = s.offer := by
  unfold revokeOne
  split <;> rfl

namespace Chronicle

variable {c : Chronicle}

/-- **No message is being handed out but the one that waits for room.** -/
def Settled (c : Chronicle) : Prop := c.turn.isSome = c.set.offer.isSome

/-- To look at the message that waits for room is an act. -/
theorem settle_of_turn {h : Handout} (hturn : c.turn = some h)
    (hoffer : c.set.offer.isSome = true) :
    c.settle.set = c.set.settleOffer.2 ∧ c.settle.Settled
      ∧ c.settle.answers = c.answers ++ c.set.settleOffer.1.toList.map (h.number, ·) := by
  have hsettles := settles_settleOffer c.set
  unfold Settled settle
  rw [hturn]
  generalize c.set.settleOffer = settled at hsettles
  generalize c.set.admits? = n at hsettles
  cases hsettles with
  | waits => exact ⟨rfl, by rw [hturn]; exact hoffer.symm, (List.append_nil _).symm⟩
  | refused _ => exact ⟨rfl, rfl, rfl⟩
  | lost => exact ⟨rfl, rfl, rfl⟩
  | put _ _ => exact ⟨rfl, rfl, rfl⟩

/-- **A message is handed out by three acts**, with the same answer, if no other one is
being handed out. -/
theorem run_handOut (m : Fetched) (hturn : c.turn = none) (hoffer : c.set.offer = none) :
    (run [.ask m, .find, .settle] c).set = (c.set.dispatch m).2
      ∧ (run [.ask m, .find, .settle] c).Settled
      ∧ (run [.ask m, .find, .settle] c).answers
        = c.answers ++ (c.set.dispatch m).1.toList.map (c.asked, ·) := by
  show (c.ask m).find.settle.set = _ ∧ (c.ask m).find.settle.Settled
    ∧ (c.ask m).find.settle.answers = _
  unfold dispatch
  split
  · next hcancelled =>
    have hrefused : (c.ask m).find.settle = c.ask m := by
      simp [ask, find, settle, hturn, hcancelled]
    rw [hrefused]
    simp [Settled, ask, hturn, hoffer, hcancelled]
  · next hlive =>
    have hfound : (c.ask m).find
        = { c with
            asked := c.asked + 1
            turn := some ⟨c.asked, m⟩
            set := { (c.set.claimFor m.key).2 with
              offer := some ((c.set.claimFor m.key).1, m) } } := by
      simp [ask, find, hturn, hoffer, hlive]
    rw [hfound]
    exact settle_of_turn (h := ⟨c.asked, m⟩) rfl rfl

/-- Taking away partitions is taking them away one by one. -/
theorem run_revoke (keys : List PartitionKey) (hc : c.Settled) :
    (run (keys.map .revoke) c).set = c.set.revoke keys ∧ (run (keys.map .revoke) c).Settled := by
  induction keys generalizing c with
  | nil => exact ⟨rfl, hc⟩
  | cons key rest ih =>
    exact ih (c := c.act (.revoke key)) (hc.trans (by rw [← offer_revokeOne key]; rfl))

/-- **A step is acts one after another.** -/
theorem exists_acts_step (e : Event) (hc : c.Settled) :
    ∃ as, (run as c).set = c.set.step e ∧ (run as c).Settled := by
  cases e with
  | dispatch m =>
    show ∃ as, _ = (if c.set.offer.isSome then c.set else (c.set.dispatch m).2) ∧ _
    split
    · exact ⟨[], rfl, hc⟩
    · next hoffer =>
      have hturn : c.turn = none := by
        rw [← Option.isNone_iff_eq_none, ← Option.not_isSome, Bool.not_eq_true', hc]
        simpa using hoffer
      obtain ⟨hset, hsettled, -⟩ := run_handOut m hturn (by simpa using hoffer)
      exact ⟨_, hset, hsettled⟩
  | settle =>
    cases hturn : c.turn with
    | some h =>
      obtain ⟨hset, hsettled, -⟩ := settle_of_turn hturn (by rw [← hc, hturn]; rfl)
      exact ⟨[.settle], hset, hsettled⟩
    | none =>
      have hoffer : c.set.offer = none := by
        rw [← Option.isNone_iff_eq_none, ← Option.not_isSome, Bool.not_eq_true', ← hc, hturn]
        rfl
      refine ⟨[], ?_, hc⟩
      show c.set = c.set.settleOffer.2
      unfold settleOffer
      rw [hoffer]
  | join n => exact ⟨[.join n], rfl, hc⟩
  | revoke keys => exact ⟨_, run_revoke keys hc⟩
  | cancel => exact ⟨[.cancel], rfl, hc⟩
  | close => exact ⟨[.close], rfl, rfl⟩
  | move n reply => exact ⟨[.move n reply], rfl, hc⟩

/-- **Every run of steps is a run of acts.** -/
theorem exists_acts_run (es : List Event) (hc : c.Settled) :
    ∃ as, (run as c).set = ClaimSet.run es c.set ∧ (run as c).Settled := by
  induction es using List.reverseRecOn with
  | nil => exact ⟨[], rfl, hc⟩
  | append_singleton es e ih =>
    obtain ⟨as, hset, has⟩ := ih
    obtain ⟨as', hset', has'⟩ := exists_acts_step e has
    rw [ClaimSet.run_concat, ← hset]
    exact ⟨as ++ as', by rw [run_append]; exact hset', by rw [run_append]; exact has'⟩

end Chronicle

end CourierDispatch.ClaimSet
