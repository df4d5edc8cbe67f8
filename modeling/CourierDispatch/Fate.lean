import CourierDispatch.ServiceError
import CourierDispatch.Time.Instant

/-!
# What becomes of a call

A call to a store or to the bus works, or it fails. Failing is of two kinds
that the caller cannot tell apart: the call was refused and nothing has
happened, or it took effect and only the news of it was lost. What is true
of a service whatever the calls come to is true of it for every choice of
fates.
-/

namespace CourierDispatch

/-- **What becomes of a call.** -/
inductive Fate where
  /-- It works. -/
  | works
  /-- It fails and has done nothing. -/
  | refused (e : ServiceError)
  /-- It fails after it has taken effect. -/
  | lost (e : ServiceError)

/-- The outcome of a call under a fate, from what it does when it works. -/
def Fate.apply {σ α : Type} (f : Fate) (act : σ → Except ServiceError α × σ) (s : σ) :
    Except ServiceError α × σ :=
  match f with
  | works => act s
  | refused e => (.error e, s)
  | lost e => (.error e, (act s).2)

/-- Whether a call takes effect, be it that the news of it is lost. -/
def Fate.takesEffect : Fate → Bool
  | works => true
  | refused _ => false
  | lost _ => true

/-- What the caller is told. -/
def Fate.news : Fate → Except ServiceError Unit
  | works => .ok ()
  | refused e => .error e
  | lost e => .error e

theorem Fate.news_eq_ok_iff {f : Fate} : f.news = .ok () ↔ f = .works := by
  cases f <;> simp [Fate.news]

/-- Of a call whose work cannot fail the fate tells everything. -/
theorem Fate.apply_ok {σ : Type} (f : Fate) (act : σ → σ) (s : σ) :
    f.apply (fun s => (.ok (), act s)) s = (f.news, if f.takesEffect then act s else s) := by
  cases f <;> rfl

/-- A call that only reads gives its answer, or fails and has done nothing. -/
theorem Fate.apply_of_read {σ α : Type} {s : σ} {r : Except ServiceError α}
    (act : σ → Except ServiceError α × σ) (h : act s = (r, s)) (f : Fate) :
    f.apply act s = (r, s)
      ∨ ∃ e, (f = .refused e ∨ f = .lost e) ∧ f.apply act s = (.error e, s) := by
  cases f with
  | works => exact .inl h
  | refused e => exact .inr ⟨e, .inl rfl, rfl⟩
  | lost e =>
    refine .inr ⟨e, .inr rfl, ?_⟩
    rw [Fate.apply, h]

/-- **What the world adds to one call.** -/
structure Moment where
  /-- The time that clocks show. -/
  now : Instant
  /-- The identifier that is drawn if one is. -/
  drawn : Uuid
  /-- What becomes of the call. -/
  fate : Fate := .works

end CourierDispatch
