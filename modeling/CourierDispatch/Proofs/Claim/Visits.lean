import CourierDispatch.Proofs.Claim.Chronicle
import CourierDispatch.Proofs.Claim.Processing

/-!
# The account of a claim

A task takes messages from its channel one after another, and makes the calls of each
before it takes the next. So what was noted of a task can be read as a list of visits
(`Visit`), one for every message that it has taken: the calls that were made for the
message, and what is left to do for it. In a visit the message is marked, or about to
be, exactly if it was handled or there was nothing to handle (`Visit.marks_calls`).

An account of a task (`Account`) says that what it has taken is the beginning of what
was put into its channel, the rest being still there, and that its calls are those of
its visits, of which only the last need not be over.
-/

namespace CourierDispatch.ClaimSet

open Claim (Call Answer Work marks Phase)

/-! ## Visits -/

/-- **A message that was taken**, with the calls that were made for it. -/
structure Visit where
  /-- The message. -/
  message : Fetched
  /-- The calls, with their answers. -/
  calls : List (Answered Call Answer)
  /-- What is left to do. -/
  rest : Work (Except ConsumerError Unit)
  /-- It is left by these calls. -/
  trail : (Claim.process message).Trail calls rest

/-- Whether a call with its answer settles a message: it was handled, or it cannot be
read and never will be. -/
def settlesMessage : Answered Call Answer → Bool
  | ⟨.decode _, .error (.registry _)⟩ => false
  | ⟨.decode _, .error _⟩ => true
  | ⟨.handle _, .ok ()⟩ => true
  | _ => false

/-- The message that a script is about to mark. -/
def marking : Work (Except ConsumerError Unit) → List Fetched
  | .call (.mark m) _ => [m]
  | _ => []

namespace Visit

/-- **The message was completed or skipped**: it was handled, or there was nothing to
handle. -/
def settled (v : Visit) : Bool := v.message.payload.isNone || v.calls.any settlesMessage

/-- The visit is over, and the task goes on. -/
def IsOver (v : Visit) : Prop := v.rest = .done (.ok ())

end Visit

section trail

variable {m : Fetched} {l : List (Answered Call Answer)} {rest : Work (Except ConsumerError Unit)}

theorem marks_trail_mark (h : (Claim.mark m).Trail l rest) : marks l ++ marking rest = [m] := by
  cases h with
  | refl => rfl
  | call h =>
    cases h
    rfl

theorem marks_trail_handle {j : Json} (h : (Claim.handle m j).Trail l rest) :
    marks l ++ marking rest = if l.any settlesMessage then [m] else [] := by
  cases h with
  | refl => rfl
  | @call _ _ handled l _ h =>
    cases handled with
    | error reason =>
      cases h
      rfl
    | ok u =>
      have hmarks : marks l ++ marking rest = [m] := marks_trail_mark h
      exact hmarks

end trail

/-- **A message is marked exactly if it was completed or skipped.** -/
theorem Visit.marks_calls (v : Visit) :
    marks v.calls ++ marking v.rest = if v.settled then [v.message] else [] := by
  obtain ⟨m, l, rest, h⟩ := v
  show marks l ++ marking rest = if m.payload.isNone || l.any settlesMessage then [m] else []
  unfold Claim.process at h
  cases hpayload : m.payload with
  | none =>
    rw [hpayload] at h
    exact marks_trail_mark h
  | some p =>
    rw [hpayload] at h
    show _ = if l.any settlesMessage then [m] else []
    cases h with
    | refl => rfl
    | @call _ _ decoded l _ h =>
      cases decoded with
      | error e =>
        cases e with
        | registry e =>
          cases h
          rfl
        | malformed e =>
          have hmarks : marks l ++ marking rest = [m] := marks_trail_mark h
          exact hmarks
        | unknownSchema id =>
          have hmarks : marks l ++ marking rest = [m] := marks_trail_mark h
          exact hmarks
      | ok j =>
        have hmarks : marks l ++ marking rest = if l.any settlesMessage then [m] else [] :=
          marks_trail_handle h
        exact hmarks

/-! ## Accounts -/

/-- **Where a task is with its visits**: only at the last one, or behind it. -/
inductive Standing : Phase → List Visit → Prop where
  /-- Between two messages. -/
  | idle {visits : List Visit} (hover : ∀ v ∈ visits, v.IsOver) : Standing .idle visits
  /-- At the last message. -/
  | busy {before : List Visit} {v : Visit} {rest : Work (Except ConsumerError Unit)}
      (hover : ∀ v ∈ before, v.IsOver) (hrest : v.rest = rest) :
      Standing (.busy rest) (before ++ [v])
  /-- At its end, which may be in the middle of the last message. -/
  | ended {visits : List Visit} (hover : ∀ v ∈ visits.dropLast, v.IsOver)
      (r : Except ConsumerError Unit) : Standing (.ended r) visits

/-- All visits but the last are over. -/
theorem Standing.isOver {phase : Phase} {visits : List Visit} (h : Standing phase visits) :
    ∀ v ∈ visits.dropLast, v.IsOver := by
  cases h with
  | idle hover => exact fun v hv => hover v (List.dropLast_subset _ hv)
  | busy hover _ => rwa [List.dropLast_concat]
  | ended hover _ => exact hover

/-- Visits that are over have marked what was completed or skipped. -/
theorem marks_flatMap_calls {visits : List Visit} (h : ∀ v ∈ visits, v.IsOver) :
    marks (visits.flatMap (·.calls)) = (visits.filter (·.settled)).map (·.message) := by
  induction visits with
  | nil => rfl
  | cons v rest ih =>
    obtain ⟨hv, hrest⟩ := List.forall_mem_cons.1 h
    have hmarks : marks v.calls = if v.settled then [v.message] else [] := by
      rw [← v.marks_calls, show v.rest = .done (.ok ()) from hv]
      exact (List.append_nil _).symm
    rw [List.flatMap_cons, Claim.marks_append, ih hrest, hmarks, List.filter_cons]
    split <;> rfl

/-- **The account of a task**: what was put into its channel, what it has taken and the
calls that it has made, told by its visits. -/
structure Account (sent : List Handout) (taken : List Fetched)
    (made : List (Answered Call Answer)) (t : Claim.Task) (visits : List Visit) : Prop where
  /-- What it has taken is the beginning of what was put into its channel. -/
  order : sent.map (·.message) = taken ++ t.queue
  /-- All of it is of the partition of the task. -/
  keyed : ∀ h ∈ sent, h.message.key = t.key
  /-- It visits every message that it has taken, in this order. -/
  visited : taken = visits.map (·.message)
  /-- Its calls are those of its visits, one visit after another. -/
  calls : made = visits.flatMap (·.calls)
  /-- Where it is with its visits. -/
  standing : Standing t.phase visits

namespace Account

variable {sent : List Handout} {taken : List Fetched} {made : List (Answered Call Answer)}
  {t : Claim.Task} {visits : List Visit}

/-- A task that has just been started. -/
theorem fresh (key : PartitionKey) : Account [] [] [] { key := key } [] where
  order := rfl
  keyed := fun _ h => (by cases h)
  visited := rfl
  calls := rfl
  standing := .idle fun _ h => by cases h

/-- The task has another standing with the same visits. -/
theorem of_standing (h : Account sent taken made t visits) {t' : Claim.Task}
    (hkey : t'.key = t.key) (hqueue : t'.queue = t.queue) (hstanding : Standing t'.phase visits) :
    Account sent taken made t' visits where
  order := hqueue ▸ h.order
  keyed := hkey ▸ h.keyed
  visited := h.visited
  calls := h.calls
  standing := hstanding

/-- A message of the partition is put into the channel. -/
theorem put (h : Account sent taken made t visits) {handout : Handout}
    (hkey : handout.message.key = t.key) :
    Account (sent ++ [handout]) taken made { t with queue := t.queue ++ [handout.message] }
      visits where
  order := by
    rw [List.map_append, h.order, List.append_assoc]
    rfl
  keyed := fun x hx => by
    rcases List.mem_append.1 hx with hx | hx
    · exact h.keyed x hx
    · rw [List.mem_singleton.1 hx]
      exact hkey
  visited := h.visited
  calls := h.calls
  standing := h.standing

/-- **A task that moves has an account again**: it begins a visit, goes on with its
last one, or leaves it. -/
theorem move (h : Account sent taken made t visits) {stopped : Bool} {m : Option Fetched}
    {call : Option (Answered Call Answer)} {t' : Claim.Task} (hmoves : Moves stopped t m call t') :
    ∃ visits', Account sent (taken ++ m.toList) (made ++ call.toList) t' visits' := by
  have hstanding := h.standing
  have hsame : ∀ p, Standing p visits →
      ∃ visits', Account sent (taken ++ []) (made ++ []) { t with phase := p } visits' := by
    intro p hp
    rw [List.append_nil, List.append_nil]
    exact ⟨visits, h.of_standing rfl rfl hp⟩
  cases hmoves with
  | rests => exact hsame t.phase hstanding
  | stops hphase _ =>
    rw [hphase] at hstanding
    cases hstanding with
    | idle hover => exact hsame _ (.ended (fun v hv => hover v (List.dropLast_subset _ hv)) _)
  | @takes m rest hphase _ hqueue =>
    rw [hphase] at hstanding
    cases hstanding with
    | idle hover =>
      refine ⟨visits ++ [⟨m, [], Claim.process m, .refl _⟩], ?_, h.keyed, ?_, ?_,
        .busy hover rfl⟩
      · rw [h.order, hqueue, Option.toList_some, List.append_assoc]
        rfl
      · rw [h.visited, List.map_append]
        rfl
      · rw [h.calls, List.flatMap_append]
        rfl
  | @makes c next hphase a =>
    rw [hphase] at hstanding
    cases hstanding with
    | @busy before v _ hover hrest =>
      have htrail : (Claim.process v.message).Trail v.calls (.call c next) := hrest ▸ v.trail
      refine ⟨before ++ [⟨v.message, v.calls ++ [⟨c, a⟩], next a, htrail.snoc a⟩], ?_, h.keyed, ?_,
        ?_, .busy hover rfl⟩
      · rw [Option.toList_none, List.append_nil]
        exact h.order
      · rw [Option.toList_none, List.append_nil, h.visited, List.map_append, List.map_append]
        rfl
      · rw [h.calls, List.flatMap_append, List.flatMap_append, List.append_assoc]
        simp
  | passes hphase =>
    rw [hphase] at hstanding
    cases hstanding with
    | busy hover hrest =>
      refine hsame _ (.idle fun v hv => ?_)
      rcases List.mem_append.1 hv with hv | hv
      · exact hover v hv
      · rw [List.mem_singleton.1 hv]
        exact hrest
  | fails hphase e =>
    rw [hphase] at hstanding
    cases hstanding with
    | busy hover hrest => exact hsame _ (.ended (by rwa [List.dropLast_concat]) _)

/-- **A task has marked what it has completed or skipped**, up to the message that it is
about to mark. -/
theorem marks_made (h : Account sent taken made t visits) :
    marks made ++ visits.getLast?.elim [] (marking ·.rest)
      = (visits.filter (·.settled)).map (·.message) := by
  have hover := h.standing.isOver
  rw [h.calls]
  rcases List.eq_nil_or_concat visits with rfl | ⟨before, v, rfl⟩
  · rfl
  · rw [List.concat_eq_append] at hover ⊢
    rw [List.dropLast_concat] at hover
    rw [List.flatMap_append, Claim.marks_append, marks_flatMap_calls hover, List.getLast?_concat,
      List.filter_append, List.map_append, List.append_assoc, List.flatMap_singleton]
    refine congrArg _ (v.marks_calls.trans ?_)
    rw [List.filter_cons]
    split <;> rfl

end Account

end CourierDispatch.ClaimSet
