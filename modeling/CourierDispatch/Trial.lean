import CourierDispatch.Fate

/-!
# Trials

A trial runs a service on its own store while things go wrong as planned.
Every call that can fail is made at a point with a name. For each point a
list says what becomes of its next calls; past the end of the list they
work. The points are noted in the order of their calls. The clock moves on
with every call, and every identifier that is drawn is a new one.
-/

namespace CourierDispatch

/-- **A trial** of a service with states in `σ`. -/
structure Trial (σ : Type) where
  /-- What the service works on. -/
  state : σ
  /-- The time at which the trial began. -/
  began : Instant
  /-- How many calls have been made. -/
  ticks : Nat := 0
  /-- What becomes of the next calls, by point. -/
  planned : List (String × List (Option ServiceError)) := []
  /-- The points at which calls were made. -/
  calls : List String := []

namespace Trial

variable {σ : Type}

/-- The time: each call takes a microsecond. -/
def now (t : Trial σ) : Instant :=
  (Instant.ofMicros? (t.began.micros + t.ticks)).getD t.began

/-- The first of the identifiers that are drawn. -/
def firstDrawn : Nat := 0xd1ce0000000040008000000000000000

/-- The identifier that is drawn at the moment. -/
def drawn (t : Trial σ) : Uuid := ⟨BitVec.ofNat 128 (firstDrawn + t.ticks)⟩

/-- Whether an identifier was drawn in the course of the trial. -/
def hasDrawn (t : Trial σ) (id : Uuid) : Bool :=
  firstDrawn ≤ id.value.toNat && id.value.toNat ≤ firstDrawn + t.ticks

/-- Plans what becomes of the next calls at a point. -/
def plan (point : String) (faults : List (Option ServiceError)) (t : Trial σ) : Trial σ :=
  { t with planned := (point, faults) :: t.planned.filter fun e => e.1 ≠ point }

/-- What the next call meets. -/
def meet (point : Option String) (t : Trial σ) : Moment × Trial σ :=
  let t := { t with ticks := t.ticks + 1 }
  let moment (f : Fate) : Moment := ⟨t.now, t.drawn, f⟩
  match point with
  | none => (moment .works, t)
  | some point =>
    let t := { t with calls := t.calls ++ [point] }
    match t.planned.lookup point with
    | some (fault :: rest) =>
      (moment (match fault with
        | some e => .refused e
        | none => .works), t.plan point rest)
    | _ => (moment .works, t)

/-- **Makes a call** at a point. -/
def call {α : Type} (point : Option String) (act : Moment → σ → α × σ) (t : Trial σ) :
    α × Trial σ :=
  let (moment, t) := t.meet point
  let (a, state) := act moment t.state
  (a, { t with state })

end Trial

end CourierDispatch
