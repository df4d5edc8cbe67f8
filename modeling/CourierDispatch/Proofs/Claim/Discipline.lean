import CourierDispatch.Proofs.Claim.Stopping

/-!
# What the claims of a session do

Whatever happens in a session, and in whichever order, its claims keep a discipline
(`Disciplined`). A claim takes the messages of one partition, in the order in which they
were handed out and each of them once, and marks exactly those that it has completed or
skipped; a message that is refused is taken by no claim; a claim that was told to stop
takes no further message; and in a session that was closed nothing is done any more once
all tasks are at their end, which is so when closing returns.

This holds for every size of the channels, for every order of the acts, and whatever
calls come to (`claims_disciplined`).
-/

namespace CourierDispatch.ClaimSet.Chronicle

open Claim (marks)

/-- **The claims of a session keep their discipline**, after some acts. -/
structure Disciplined (as : List Act) (c : Chronicle) : Prop where
  /-- Each claim has taken the beginning of what was put into its channel, all of it of its
  partition, and has marked, or is about to mark, exactly what it has completed or
  skipped. -/
  accounts : ∀ n t, c.set.tasks[n]? = some t → ∃ visits,
    Account (ofTask n c.sent) (ofTask n c.taken) (ofTask n c.made) t visits
      ∧ marks (ofTask n c.made) ++ visits.getLast?.elim [] (marking ·.rest)
        = (visits.filter (·.settled)).map (·.message)
  /-- Messages were put into channels in the order in which they were handed out, each
  into one at most. -/
  order : (c.sent.map (·.2.number)).Pairwise (· < ·)
  /-- A message was refused only if the session was cancelled, and is never put into a
  channel. -/
  refused : ∀ d, (d, false) ∈ c.answers → c.set.cancelled = true
    ∧ ∀ as', d ∉ (run as' c).sent.map (·.2.number)
  /-- When a partition is taken away, all its claims are told to stop that are not at
  their end. -/
  revoked : ∀ key n t, (c.act (.revoke key)).set.tasks[n]? = some t → t.key = key →
    (c.act (.revoke key)).set.isStale n = true
  /-- A claim that was told to stop takes no further message, and makes no calls but those
  that are left for the message that it is at. -/
  stopped : ∀ n t, c.set.tasks[n]? = some t → c.set.isStale n = true → ∀ as', ∃ t' l,
    (run as' c).set.tasks[n]? = some t' ∧ ofTask n (run as' c).taken = ofTask n c.taken
      ∧ ofTask n (run as' c).made = ofTask n c.made ++ l ∧ Finishes t.phase l t'.phase
  /-- A session that was closed is at rest as soon as all tasks are at their end. -/
  closed : .close ∈ as → c.set.isIdle = true → AtRest c
  /-- Closing does not return before that. -/
  returned : CloseReturned as c → AtRest c
  /-- In a session at rest, which stays so, no task takes a message, makes a call or is at
  one. -/
  atRest : AtRest c → ∀ as', AtRest (run as' c) ∧ (run as' c).taken = c.taken
    ∧ (run as' c).made = c.made ∧ ∀ t ∈ (run as' c).set.tasks, callOf? t = none

/-- **Claims take prefixes, mark what they are through with, and stop when they are
told to.** -/
theorem claims_disciplined (buffer : Nat) (as : List Act) :
    Disciplined as (run as (start buffer)) := by
  have hsound := sound_run buffer as
  have hnumbered := numbered_run buffer as
  refine ⟨fun n t ht => ?_, ?_, fun d hd => ?_, fun key n t ht hkey => ?_,
    fun n t ht hstale as' => ?_, atRest_of_close, CloseReturned.atRest, fun hrest as' => ?_⟩
  · obtain ⟨visits, haccount⟩ := hsound.accounts ht
    exact ⟨visits, haccount, haccount.marks_made⟩
  · exact (List.pairwise_append.1 hnumbered.increasing).1
  · refine ⟨(hnumbered.refused d hd).1, fun as' hmem => ?_⟩
    have hd' : (d, false) ∈ (run as' (run as (start buffer))).answers :=
      run_preserves (P := fun c => (d, false) ∈ c.answers)
        (fun _ _ _ h hmem => h.answers_subset hmem) as' hd
    have hlater : Numbered (run as' (run as (start buffer))) :=
      run_preserves (fun _ _ _ h hc => h.numbered hc) as' hnumbered
    exact (hlater.refused d hd').2.2 (List.mem_append_left _ hmem)
  · exact (hsound.registered.revokeOne key).isStale_of_get?_eq_none
      (get?_revokeOne key _) ht hkey
  · obtain ⟨t', l, ht', -, htaken, hmade, hfinishes⟩ :=
      finishes_run hsound ht ((stale_iff ht).2 hstale) as'
    exact ⟨t', l, ht', htaken, hmade, hfinishes⟩
  · obtain ⟨hrest', htaken, hmade⟩ := hrest.run as'
    refine ⟨hrest', htaken, hmade, fun t ht => ?_⟩
    exact callOf?_of_hasEnded (List.all_eq_true.1 hrest'.idle t ht)

/-- A partition is taken away while its claim is at a message and two more wait, one of
them for room; the session is cancelled and closed. The claim has finished the message
that it was at, a new one of the partition was started for the next message, and the last
message was refused. Closing has returned. -/
theorem claims_disciplined_takenAway :
    let p : Int → Fetched := fun offset => ⟨"orders.v1", 0, offset, some []⟩
    let q : Fetched := ⟨"orders.v1", 1, 3, none⟩
    let handOut : Fetched → List Act := fun m => [.ask m, .find, .settle]
    let moves : Nat → Nat → List Act := fun n k => .replicate k (.move n (scripted (.ok ())))
    let as : List Act := handOut (p 7) ++ moves 0 2 ++ handOut q ++ moves 1 3 ++ handOut (p 8)
      ++ handOut (p 9) ++ [.revoke (p 7).key] ++ moves 0 4 ++ [.settle] ++ handOut (p 10)
      ++ [.cancel] ++ handOut (p 11) ++ [.close] ++ moves 1 1 ++ moves 2 1
      ++ [.join 0, .join 1, .join 2]
    let c := run as (start 1)
    c.answers = [(0, true), (1, true), (2, true), (3, true), (4, true), (5, false)]
      ∧ c.sent.map (fun x => (x.1, x.2.number)) = [(0, 0), (1, 1), (0, 2), (2, 4)]
      ∧ c.taken = [(0, p 7), (1, q)]
      ∧ marks (ofTask 0 c.made) = [p 7] ∧ marks (ofTask 1 c.made) = [q]
      ∧ CloseReturned as c ∧ c.set.isIdle = true ∧ Disciplined as c :=
  ⟨rfl, rfl, rfl, rfl, rfl, ⟨by simp, by decide⟩, rfl, claims_disciplined 1 _⟩

end CourierDispatch.ClaimSet.Chronicle
