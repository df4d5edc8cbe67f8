import CourierDispatch.Workshop
import Mathlib.Order.Monotone.Defs

/-!
# Contracts of scripts

What a script does to a state is not known from the script alone when others
work on the state too. What is known is which calls it makes and what it has
been told by then. A contract says, for what is known at a moment (an element
of an order `W`, in which knowledge grows), which calls may be made and what an
answer may be relied on for. A script keeps the contract if it makes only calls
that may be made, whatever the answers and however much more comes to be known
in the meantime.

So a service is gone through once, script by script, and never together with
what else is going on; that the calls which may be made keep an invariant is
shown once for each call.
-/

namespace CourierDispatch

/-- **What a script owes and is owed**, by what is known. -/
structure Contract (C : Type) (A : C → Type) (W : Type) [Preorder W] where
  /-- The call may be made. -/
  may : W → C → Prop
  /-- The answer may be given. -/
  told : W → (c : C) → A c → Prop
  /-- Knowing more forbids nothing. -/
  may_mono : ∀ {w w' : W} {c : C}, w ≤ w' → may w c → may w' c

/-- Nothing is said of a result. -/
abbrev anyResult {W α : Type} : W → α → Prop := fun _ _ => True

variable {C : Type} {A : C → Type} {W α β σ : Type} [Preorder W]

/-! ## Scripts -/

namespace Script

/-- **The script keeps the contract**, and its result is as `fin` says. -/
inductive Keeps (K : Contract C A W) (fin : W → α → Prop) : Script C A α → W → Prop where
  /-- Nothing is left to do. -/
  | done {a : α} {w : W} (h : fin w a) : Keeps K fin (.done a) w
  /-- The next call may be made, and so on after every answer. -/
  | call {c : C} {next : A c → Script C A α} {w : W} (hmay : K.may w c)
      (hnext : ∀ w', w ≤ w' → ∀ a, K.told w' c a → Keeps K fin (next a) w') :
      Keeps K fin (.call c next) w

variable {K : Contract C A W} {fin : W → α → Prop} {s : Script C A α} {w : W}

/-- A script goes on keeping the contract when more is known. -/
theorem Keeps.mono (hfin : ∀ a, Monotone (fin · a)) {w' : W} (hw : w ≤ w')
    (h : s.Keeps K fin w) : s.Keeps K fin w' := by
  cases h with
  | done h => exact .done (hfin _ hw h)
  | call hmay hnext => exact .call (K.may_mono hw hmay) fun w'' hw' => hnext w'' (hw.trans hw')

/-- Two scripts in a row: the second starts from what is known at the end of the
first. -/
theorem Keeps.bind {fin' : W → β → Prop} {k : α → Script C A β} (h : s.Keeps K fin w)
    (hk : ∀ w', w ≤ w' → ∀ a, fin w' a → (k a).Keeps K fin' w') : (s.bind k).Keeps K fin' w := by
  induction h with
  | done h => exact hk _ le_rfl _ h
  | call hmay _ ih =>
    refine .call hmay fun w' hw a ha => ih w' hw a ha ?_
    exact fun w'' hw' => hk w'' (hw.trans hw')

/-- What a script that is about to make a call owes, and what it is owed. -/
theorem Keeps.of_call {c : C} {next : A c → Script C A α} (h : (Script.call c next).Keeps K fin w) :
    K.may w c ∧ ∀ w', w ≤ w' → ∀ a, K.told w' c a → (next a).Keeps K fin w' := by
  cases h with
  | call hmay hnext => exact ⟨hmay, hnext⟩

end Script

/-! ## Scripts side by side -/

namespace Workshop

variable {τ : Type} [DecidableEq τ]

/-- **Every script keeps the contract** from where it is. -/
def Keeps (K : Contract C A W) (fin : W → α → Prop) (v : Workshop τ C A α σ) (w : W) : Prop :=
  ∀ ⦃t s⦄, v.works.get? t = some s → s.Keeps K fin w

variable {K : Contract C A W} {fin : W → α → Prop} {v v' : Workshop τ C A α σ} {w w' : W}

theorem Keeps.mono (hfin : ∀ a, Monotone (fin · a)) (hw : w ≤ w')
    (h : v.Keeps K fin w) : v.Keeps K fin w' :=
  fun _ _ hs => (h hs).mono hfin hw

/-- A script that is begun keeps the contract if all of it does. -/
theorem Keeps.begin {t : τ} {s : Script C A α} (h : v.Keeps K fin w) (hs : s.Keeps K fin w)
    (hbegin : v.begin? t s = some v') : v'.Keeps K fin w ∧ v'.state = v.state := by
  unfold begin? at hbegin
  split at hbegin
  · cases hbegin
  · obtain rfl := Option.some.inj hbegin
    refine ⟨fun t' s' ht => ?_, rfl⟩
    rw [Table.get?_put] at ht
    split at ht
    · exact Option.some.inj ht ▸ hs
    · exact h ht

omit [Preorder W] in
/-- What it takes for a script to make its next call. -/
theorem advance?_eq_some {answer : (c : C) → σ → Option (A c × σ)} {t : τ}
    (hadvance : v.advance? answer t = some v') :
    ∃ c next a state, v.works.get? t = some (.call c next) ∧ answer c v.state = some (a, state)
      ∧ v' = { state, works := v.works.put t (next a) } := by
  unfold advance? at hadvance
  split at hadvance
  · next c next hwork =>
    obtain ⟨⟨a, state⟩, ha, rfl⟩ := Option.map_eq_some_iff.1 hadvance
    exact ⟨c, next, a, state, hwork, ha, rfl⟩
  · cases hadvance

/-- A script that has made a call goes on keeping the contract, and so do the
others. -/
theorem Keeps.advance (hfin : ∀ a, Monotone (fin · a)) {t : τ} {c : C}
    {next : A c → Script C A α} {a : A c} (h : v.Keeps K fin w)
    (hwork : v.works.get? t = some (.call c next)) (hw : w ≤ w') (ha : K.told w' c a) (state : σ) :
    Keeps K fin ({ state, works := v.works.put t (next a) } : Workshop τ C A α σ) w' := by
  intro t' s' ht
  rw [Table.get?_put] at ht
  split at ht
  · exact Option.some.inj ht ▸ (h hwork).of_call.2 w' hw a ha
  · exact (h ht).mono hfin hw

end Workshop

end CourierDispatch
