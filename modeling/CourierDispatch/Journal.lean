import CourierDispatch.Workshop

/-!
# Journals

A journal is a state together with the calls that were made on it: by whom,
with which answer, and between which states. Scripts that work side by side on
a journal do what they do without it; what happened in between can then be
read off.

What one piece of work has made of its script is known from its own calls
alone, whatever the others did: its script has become what the answers lead to
(`Workshop.Logged.put`).
-/

namespace CourierDispatch

variable {τ C : Type} {A : C → Type} {α σ : Type}

/-- **A call that was made.** -/
structure Made (τ C : Type) (A : C → Type) (σ : Type) where
  /-- Who made it. -/
  task : τ
  /-- The call. -/
  call : C
  /-- Its answer. -/
  answer : A call
  /-- The state before it. -/
  before : σ
  /-- The state after it. -/
  after : σ

/-- **A state with the calls that were made on it.** -/
structure Journal (τ C : Type) (A : C → Type) (σ : Type) where
  /-- The state. -/
  state : σ
  /-- The calls, first made first. -/
  made : List (Made τ C A σ) := []

/-- A call with its answer. -/
abbrev Answered (C : Type) (A : C → Type) := (c : C) × A c

/-- What was called for, and with which answer. -/
def Made.answered (m : Made τ C A σ) : Answered C A := ⟨m.call, m.answer⟩

namespace Journal

/-- **Calls that are made one after another**, as they are noted. -/
def notes (answer : (c : C) → σ → A c × σ) (task : τ) : List C → σ → List (Made τ C A σ)
  | [], _ => []
  | c :: cs, s =>
    ⟨task, c, (answer c s).1, s, (answer c s).2⟩ :: notes answer task cs (answer c s).2

/-- The journal with one more call. -/
def add (m : Made τ C A σ) (j : Journal τ C A σ) : Journal τ C A σ :=
  { state := m.after, made := j.made ++ [m] }

/-- Answers a call and notes it. -/
def note (answer : (c : C) → σ → A c × σ) (task : τ) (c : C) (j : Journal τ C A σ) :
    A c × Journal τ C A σ :=
  let (a, state) := answer c j.state
  (a, j.add ⟨task, c, a, j.state, state⟩)

theorem note_snd (answer : (c : C) → σ → A c × σ) (task : τ) (c : C) (j : Journal τ C A σ) :
    (j.note answer task c).2
      = j.add ⟨task, c, (answer c j.state).1, j.state, (answer c j.state).2⟩ := rfl

/-- One more call may be of the kind by which pieces of work are listed. -/
theorem filterMap_made_add (p : τ → Answered C A → Bool) (m : Made τ C A σ) (j : Journal τ C A σ) :
    ((j.add m).made.filterMap fun m => if p m.task ⟨m.call, m.answer⟩ then some m.task else none)
      = (j.made.filterMap fun m => if p m.task ⟨m.call, m.answer⟩ then some m.task else none)
        ++ if p m.task ⟨m.call, m.answer⟩ then [m.task] else [] := by
  unfold add
  rw [List.filterMap_append]
  split
  · next h => simp [h]
  · next h => simp [h]

variable [DecidableEq τ]

/-- The calls that one piece of work has made. -/
def madeBy (task : τ) (j : Journal τ C A σ) : List (Made τ C A σ) :=
  j.made.filter (·.task = task)

/-- The calls that one piece of work has made, with their answers alone. -/
def log (task : τ) (j : Journal τ C A σ) : List (Answered C A) :=
  (j.madeBy task).map fun m => ⟨m.call, m.answer⟩

theorem mem_madeBy {task : τ} {j : Journal τ C A σ} {m : Made τ C A σ} :
    m ∈ j.madeBy task ↔ m ∈ j.made ∧ m.task = task := by
  unfold madeBy
  rw [List.mem_filter, decide_eq_true_eq]

theorem log_nil (task : τ) (s : σ) : (⟨s, []⟩ : Journal τ C A σ).log task = [] := rfl

theorem log_add (task : τ) (m : Made τ C A σ) (j : Journal τ C A σ) : (j.add m).log task
    = if m.task = task then j.log task ++ [⟨m.call, m.answer⟩] else j.log task := by
  unfold log madeBy add
  split
  · next h => simp [h]
  · next h => simp [h]

theorem mem_log {task : τ} {j : Journal τ C A σ} {n : Answered C A} :
    n ∈ j.log task ↔ ∃ m ∈ j.made, m.task = task ∧ (⟨m.call, m.answer⟩ : Answered C A) = n := by
  unfold log
  simp only [List.mem_map, mem_madeBy, and_assoc]

/-- Nothing that was noted is forgotten. -/
theorem log_subset_add (task : τ) (m : Made τ C A σ) (j : Journal τ C A σ) :
    j.log task ⊆ (j.add m).log task := by
  rw [log_add]
  split
  · exact List.subset_append_left _ _
  · exact List.Subset.refl _

/-- **How often a piece of work is listed** for calls of a kind is read off its own
calls. -/
theorem count_filterMap_made (p : τ → Answered C A → Bool) (task : τ) (j : Journal τ C A σ) :
    (j.made.filterMap fun m =>
        if p m.task ⟨m.call, m.answer⟩ then some m.task else none).count task
      = (j.log task).countP (p task) := by
  unfold log madeBy
  induction j.made with
  | nil => rfl
  | cons m ms ih =>
    rw [List.filterMap_cons, List.filter_cons]
    by_cases htask : m.task = task
    · subst htask
      cases hp : p m.task ⟨m.call, m.answer⟩ with
      | false => simpa [hp] using ih
      | true => simpa [hp] using ih
    · cases hp : p m.task ⟨m.call, m.answer⟩ with
      | false => simpa [htask] using ih
      | true => simpa [htask] using ih

end Journal

/-! ## The way of a script -/

namespace Script

/-- **What a script becomes** by calls that are answered. -/
inductive Trail : Script C A α → List (Answered C A) → Script C A α → Prop where
  /-- No call has been made. -/
  | refl (s : Script C A α) : Trail s [] s
  /-- A call has been answered, and others may follow. -/
  | call {c : C} {next : A c → Script C A α} {a : A c} {l : List (Answered C A)}
      {s : Script C A α} (h : Trail (next a) l s) : Trail (.call c next) (⟨c, a⟩ :: l) s

/-- One more call. -/
theorem Trail.snoc {s : Script C A α} {l : List (Answered C A)} {c : C}
    {next : A c → Script C A α} (h : Trail s l (.call c next)) (a : A c) :
    Trail s (l ++ [⟨c, a⟩]) (next a) := by
  generalize hs : Script.call c next = s' at h
  induction h with
  | refl s =>
    subst hs
    exact .call (.refl _)
  | call h ih => exact .call (ih hs)

/-- A script that is run to its end makes its calls in turn, and each of them is noted. -/
theorem perform_note_call (answer : (c : C) → σ → A c × σ) (t : τ) (c : C)
    (next : A c → Script C A α) (j : Journal τ C A σ) :
    (call c next).perform (m := StateM (Journal τ C A σ)) (fun c j => j.note answer t c) j
      = (next (answer c j.state).1).perform (m := StateM (Journal τ C A σ))
          (fun c j => j.note answer t c)
          (j.add ⟨t, c, (answer c j.state).1, j.state, (answer c j.state).2⟩) := rfl

variable [DecidableEq τ]

/-- **A script that is run to its end has gone its way**, and the way is noted. -/
theorem exists_trail_perform_note (answer : (c : C) → σ → A c × σ) (t : τ) (s : Script C A α)
    (j : Journal τ C A σ) : ∃ l,
      ((s.perform (m := StateM (Journal τ C A σ)) fun c j => j.note answer t c) j).2.log t
        = j.log t ++ l
      ∧ s.Trail l (.done
        ((s.perform (m := StateM (Journal τ C A σ)) fun c j => j.note answer t c) j).1) := by
  induction s generalizing j with
  | done a => exact ⟨[], (List.append_nil _).symm, .refl _⟩
  | call c next ih =>
    obtain ⟨l, hl, htrail⟩ := ih (answer c j.state).1 (j.note answer t c).2
    refine ⟨⟨c, (answer c j.state).1⟩ :: l, ?_, .call htrail⟩
    refine hl.trans ?_
    rw [Journal.note_snd, Journal.log_add, if_pos rfl, List.append_assoc]
    rfl

end Script

namespace Workshop

variable [DecidableEq τ]

/-- **Every script has become what its own calls made of it**; work that has not
begun has made none. `work` says what is begun under each name. -/
structure Logged (work : τ → Script C A α) (w : Workshop τ C A α (Journal τ C A σ)) : Prop where
  /-- Work that was begun. -/
  trail : ∀ ⦃t s⦄, w.works.get? t = some s → (work t).Trail (w.state.log t) s
  /-- Work that was not begun. -/
  idle : ∀ ⦃t⦄, w.works.get? t = none → w.state.log t = []

variable {work : τ → Script C A α} {w w' : Workshop τ C A α (Journal τ C A σ)}

theorem logged_empty (work : τ → Script C A α) (s : σ) :
    Logged work ({ state := { state := s } } : Workshop τ C A α (Journal τ C A σ)) :=
  ⟨fun _ _ h => (by cases h), fun _ _ => rfl⟩

/-- What it takes for a script to begin. -/
theorem begin?_eq_some {t : τ} {s : Script C A α} {v v' : Workshop τ C A α σ}
    (h : v.begin? t s = some v') :
    v.works.get? t = none ∧ v' = { v with works := v.works.put t s } := by
  unfold begin? at h
  split at h
  · cases h
  · next hnew =>
    refine ⟨?_, (Option.some.inj h).symm⟩
    unfold Table.contains at hnew
    simpa using hnew

/-- Work begins without a call. -/
theorem Logged.begin {t : τ} (h : w.Logged work) (hbegin : w.begin? t (work t) = some w') :
    w'.Logged work := by
  obtain ⟨hnew, rfl⟩ := begin?_eq_some hbegin
  refine ⟨fun t' s ht => ?_, fun t' ht => ?_⟩
  · rw [Table.get?_put] at ht
    split at ht
    · next heq =>
      subst heq
      obtain rfl := Option.some.inj ht
      show (work t').Trail (w.state.log t') _
      rw [h.idle hnew]
      exact .refl _
    · exact h.trail ht
  · rw [Table.get?_put] at ht
    split at ht
    · cases ht
    · exact h.idle ht

/-- **A call takes its script one step along its way**, and leaves the others
where they are. -/
theorem Logged.put {t : τ} {c : C} {next : A c → Script C A α} (h : w.Logged work)
    (hwork : w.works.get? t = some (.call c next)) (answer : (c : C) → σ → A c × σ) :
    Logged work ⟨(w.state.note answer t c).2,
      w.works.put t (next (w.state.note answer t c).1)⟩ := by
  refine ⟨fun t' s ht => ?_, fun t' ht => ?_⟩
  · rw [Table.get?_put] at ht
    split at ht
    · next heq =>
      subst heq
      obtain rfl := Option.some.inj ht
      show (work t').Trail ((w.state.note answer t' c).2.log t') _
      rw [Journal.note_snd, Journal.log_add, if_pos rfl]
      exact (h.trail hwork).snoc _
    · next hne =>
      show (work t').Trail ((w.state.note answer t c).2.log t') _
      rw [Journal.note_snd, Journal.log_add, if_neg (Ne.symm hne)]
      exact h.trail ht
  · rw [Table.get?_put] at ht
    split at ht
    · cases ht
    · next hne =>
      show (w.state.note answer t c).2.log t' = []
      rw [Journal.note_snd, Journal.log_add, if_neg (Ne.symm hne)]
      exact h.idle ht

end Workshop

end CourierDispatch
