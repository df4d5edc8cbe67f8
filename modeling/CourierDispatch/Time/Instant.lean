import CourierDispatch.Time.Calendar

/-!
# Instants

A point of time in UTC, to the nanosecond. A leap second shares its count with
the second that it follows and is told apart by nanoseconds of a whole second
and more, which also puts it in its place between that second and the next one.

Any second may be followed by a leap second. Clocks know only the one that
follows second 59 and ends a minute (`LeapEndsMinute`), and it is the only one
that has a text of its own: every other one is written as the second that comes
after it (`asWritten`).
-/

namespace CourierDispatch

/-- **A point of time.** -/
structure Instant where
  /-- Seconds since 1 January 1970, leap seconds not counted. -/
  seconds : Int
  /-- Nanoseconds since then; from a whole second on within a leap second. -/
  nanos : Nat
  /-- A leap second is one second long. -/
  nanos_lt : nanos < 2000000000
  /-- The year -262143 is the first. -/
  first_le : -8334601228800 ≤ seconds
  /-- The year 262142 is the last. -/
  le_last : seconds ≤ 8210266876799
  deriving DecidableEq

namespace Instant

/-- The instant with a count of seconds and nanoseconds, if there is one. -/
def ofParts? (seconds : Int) (nanos : Nat) : Option Instant :=
  if h : nanos < 2000000000 ∧ -8334601228800 ≤ seconds ∧ seconds ≤ 8210266876799 then
    some ⟨seconds, nanos, h.1, h.2.1, h.2.2⟩
  else none

theorem ofParts?_self (i : Instant) : ofParts? i.seconds i.nanos = some i :=
  dif_pos ⟨i.nanos_lt, i.first_le, i.le_last⟩

/-- The epoch. -/
def epoch : Instant := ⟨0, 0, by decide, by decide, by decide⟩

instance : Inhabited Instant := ⟨epoch⟩

/-- The instant a number of microseconds after the epoch, if there is
one. -/
def ofMicros? (micros : Int) : Option Instant :=
  ofParts? (micros / 1000000) (1000 * (micros % 1000000).toNat)

/-- Whole microseconds since the epoch. -/
def micros (i : Instant) : Int := i.seconds * 1000000 + (i.nanos / 1000 : Nat)

/-- The last microsecond that has an instant. -/
def lastMicros : Int := 8210266876799999999

/-- Up to the last one, whole microseconds are told apart by instants, if they are
not before those of some instant. -/
theorem exists_ofMicros? {now : Instant} {m : Int} (hlow : now.micros ≤ m)
    (hhigh : m ≤ lastMicros) : ∃ i, ofMicros? m = some i ∧ i.micros = m := by
  have hfirst := now.first_le
  unfold micros at hlow
  unfold lastMicros at hhigh
  have hparts : (1000 * (m % 1000000).toNat) < 2000000000
      ∧ -8334601228800 ≤ m / 1000000 ∧ m / 1000000 ≤ 8210266876799 := by
    refine ⟨by omega, by omega, by omega⟩
  unfold ofMicros? ofParts?
  rw [dif_pos hparts]
  refine ⟨_, rfl, ?_⟩
  unfold micros
  dsimp only
  omega

/-- Instants are ordered by seconds, and within a second by nanoseconds. -/
instance : LT Instant :=
  ⟨fun a b => a.seconds < b.seconds ∨ (a.seconds = b.seconds ∧ a.nanos < b.nanos)⟩

instance : LE Instant := ⟨fun a b => ¬ b < a⟩

/-- An instant that is a whole number of microseconds lies in no leap second. -/
theorem nanos_lt_of_ofMicros? {m : Int} {i : Instant} (h : ofMicros? m = some i) :
    i.nanos < 1000000000 := by
  unfold ofMicros? ofParts? at h
  split at h
  · obtain rfl := Option.some.inj h
    dsimp only
    omega
  · cases h

/-- Of two instants in different microseconds the one in the later microsecond is
later, if it lies in no leap second. -/
theorem lt_of_micros_lt {a b : Instant} (hb : b.nanos < 1000000000) (h : a.micros < b.micros) :
    a < b := by
  unfold micros at h
  show a.seconds < b.seconds ∨ (a.seconds = b.seconds ∧ a.nanos < b.nanos)
  omega

theorem ne_of_lt {a b : Instant} (h : a < b) : a ≠ b := by
  rintro rfl
  rcases h with h | ⟨-, h⟩
  · exact Int.lt_irrefl _ h
  · exact Nat.lt_irrefl _ h

theorem lt_iff {a b : Instant} :
    a < b ↔ a.seconds < b.seconds ∨ (a.seconds = b.seconds ∧ a.nanos < b.nanos) := Iff.rfl

theorem le_refl (a : Instant) : a ≤ a := fun h => ne_of_lt h rfl

theorem le_of_lt {a b : Instant} (h : a < b) : a ≤ b := fun h' => by
  rw [lt_iff] at h h'
  omega

theorem le_trans {a b c : Instant} (h : a ≤ b) (h' : b ≤ c) : a ≤ c := fun hc => by
  have h := mt lt_iff.2 h
  have h' := mt lt_iff.2 h'
  rw [lt_iff] at hc
  omega

/-- Instants that are not apart are the same. -/
theorem le_antisymm {a b : Instant} (h : a ≤ b) (h' : b ≤ a) : a = b := by
  have h := mt lt_iff.2 h
  have h' := mt lt_iff.2 h'
  obtain ⟨seconds, nanos, _, _, _⟩ := a
  obtain ⟨seconds', nanos', _, _, _⟩ := b
  dsimp only at h h'
  obtain ⟨rfl, rfl⟩ : seconds = seconds' ∧ nanos = nanos' := by omega
  rfl

/-! ## Leap seconds -/

/-- The instant lies in a leap second. -/
def InLeapSecond (i : Instant) : Prop := 1000000000 ≤ i.nanos

/-- **A leap second, if the instant lies in one, ends a minute**: it follows second 59. -/
def LeapEndsMinute (i : Instant) : Prop := i.InLeapSecond → i.seconds % 60 = 59

instance (i : Instant) : Decidable i.InLeapSecond := inferInstanceAs (Decidable (_ ≤ _))

instance (i : Instant) : Decidable i.LeapEndsMinute := inferInstanceAs (Decidable (_ → _))

/-- **A leap second comes after the second that it follows and all that was before, and before
the next second.** -/
theorem InLeapSecond.between {i : Instant} (h : i.InLeapSecond) (j : Instant) :
    (¬ j.InLeapSecond → j.seconds ≤ i.seconds → j < i) ∧ (i.seconds < j.seconds → i < j) := by
  unfold InLeapSecond at h ⊢
  rw [lt_iff, lt_iff]
  omega

/-- **A leap second that ends a minute comes after second 59 and all that was before, and before
the next minute.** -/
theorem InLeapSecond.endsMinute {i : Instant} (h : i.InLeapSecond) (hends : i.LeapEndsMinute)
    (j : Instant) : (¬ j.InLeapSecond → j.seconds / 60 ≤ i.seconds / 60 → j < i)
      ∧ (i.seconds / 60 < j.seconds / 60 → i < j) := by
  have last : i.seconds % 60 = 59 := hends h
  obtain ⟨after, before⟩ := h.between j
  exact ⟨fun plain le => after plain (by omega), fun lt => before (by omega)⟩

/-- **The instant that the text of an instant writes**: a leap second that does not end a minute
is written as the second after the one that it follows. -/
def asWritten (i : Instant) : Instant :=
  if h : i.InLeapSecond ∧ i.seconds % 60 ≠ 59 then
    { seconds := i.seconds + 1
      nanos := i.nanos - 1000000000
      nanos_lt := Nat.lt_of_le_of_lt (Nat.sub_le _ _) i.nanos_lt
      first_le := Int.le_trans i.first_le (by omega)
      -- The last second of all ends a minute.
      le_last := by
        have le := i.le_last
        have early := h.2
        omega }
  else i

theorem asWritten_of_leapEndsMinute {i : Instant} (h : i.LeapEndsMinute) : i.asWritten = i :=
  dif_neg fun stray => stray.2 (h stray.1)

/-- A stray leap second is written as the second after it, to the nanosecond. -/
theorem parts_asWritten {i : Instant} (leap : i.InLeapSecond) (stray : i.seconds % 60 ≠ 59) :
    i.asWritten.seconds = i.seconds + 1 ∧ i.asWritten.nanos = i.nanos - 1000000000 := by
  unfold asWritten
  rw [dif_pos ⟨leap, stray⟩]
  exact ⟨rfl, rfl⟩

/-- **Only instants in a stray leap second are written as another instant.** -/
theorem asWritten_eq_self_iff {i : Instant} : i.asWritten = i ↔ i.LeapEndsMinute := by
  refine ⟨fun same leap => Decidable.byContradiction fun stray => ?_, asWritten_of_leapEndsMinute⟩
  have later := (parts_asWritten leap stray).1
  rw [same] at later
  omega

instance (a b : Instant) : Decidable (a < b) :=
  inferInstanceAs (Decidable (_ ∨ _))

instance (a b : Instant) : Decidable (a ≤ b) :=
  inferInstanceAs (Decidable (¬ _))

end Instant

end CourierDispatch
