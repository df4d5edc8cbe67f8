import CourierDispatch.Bytes

/-!
# Numbers of variable length

Integers are written zig-zag, so that small negative numbers stay small, and
then seven bits to a byte, least significant group first, with the top bit
of every byte but the last set. Ten groups hold sixty-four bits; an eleventh
is refused, and what a tenth group carries beyond bit sixty-four is dropped.

The main statement is `readLong_long`: what is written reads back, whatever
follows it.
-/

namespace CourierDispatch.Avro

/-! ## Zig-zag -/

/-- Interleaves the integers: 0, -1, 1, -2, 2 and so on. -/
def zigzag (n : Int) : Nat := if 0 ≤ n then 2 * n.toNat else 2 * (-n).toNat - 1

/-- The integer at a place of that order. -/
def unzigzag (u : Nat) : Int := if u % 2 = 0 then (u / 2 : Nat) else -((u / 2 : Nat) : Int) - 1

theorem unzigzag_zigzag (n : Int) : unzigzag (zigzag n) = n := by
  unfold zigzag unzigzag
  split <;> split <;> omega

theorem zigzag_lt {n : Int} (lo : -(2 ^ 63) ≤ n) (hi : n < 2 ^ 63) : zigzag n < 2 ^ 64 := by
  unfold zigzag
  split <;> omega

/-! ## Groups of seven bits -/

/-- The groups of a number, least significant first, at most `k` of them. -/
def groups : Nat → Nat → Bytes
  | 0, _ => []
  | k + 1, n =>
    if n < 128 then [UInt8.ofNat n] else UInt8.ofNat (n % 128 + 128) :: groups k (n / 128)

/-- **Why no number could be read.** -/
inductive VarintFault where
  /-- The input ended before the last group. -/
  | endOfInput
  /-- There are more groups than a number has. -/
  | tooLong
  deriving DecidableEq, Repr

/-- The number that at most `k` groups hold, and what follows it. -/
def readGroups : Nat → Bytes → Except VarintFault (Nat × Bytes)
  | 0, _ => .error .tooLong
  | _ + 1, [] => .error .endOfInput
  | k + 1, b :: rest =>
    if b.toNat < 128 then .ok (b.toNat, rest)
    else
      match readGroups k rest with
      | .error e => .error e
      | .ok (high, rest) => .ok (b.toNat % 128 + 128 * high, rest)

theorem readGroups_groups {k n : Nat} (h : n < 128 ^ (k + 1)) (t : Bytes) :
    readGroups (k + 1) (groups (k + 1) n ++ t) = .ok (n, t) := by
  induction k generalizing n with
  | zero =>
    have small : n < 128 := by simpa using h
    have byte : (UInt8.ofNat n).toNat = n := by simp; omega
    simp [groups, small, readGroups, byte]
  | succ k ih =>
    by_cases small : n < 128
    · have byte : (UInt8.ofNat n).toNat = n := by simp; omega
      simp [groups, small, readGroups, byte]
    · have byte : (UInt8.ofNat (n % 128 + 128)).toNat = n % 128 + 128 := by simp; omega
      have rest : n / 128 < 128 ^ (k + 1) := by
        rw [Nat.div_lt_iff_lt_mul (by decide)]
        rwa [Nat.pow_succ] at h
      rw [groups, if_neg small, List.cons_append, readGroups, byte, if_neg (by omega), ih rest]
      simp only [Except.ok.injEq, Prod.mk.injEq, and_true]
      omega

/-! ## Words of sixty-four bits -/

/-- The most groups a number may have. -/
def groupLimit : Nat := 10

/-- The bytes of an integer. -/
def long (n : Int64) : Bytes := groups groupLimit (zigzag n.toInt)

/-- The integer at the front, and what follows it. -/
def readLong (b : Bytes) : Except VarintFault (Int64 × Bytes) :=
  match readGroups groupLimit b with
  | .error e => .error e
  | .ok (u, rest) => .ok (Int64.ofInt (unzigzag (u % 2 ^ 64)), rest)

/-- **What is written reads back**, whatever follows it. -/
theorem readLong_long (n : Int64) (t : Bytes) : readLong (long n ++ t) = .ok (n, t) := by
  have small : zigzag n.toInt < 2 ^ 64 := zigzag_lt n.le_toInt n.toInt_lt
  have room : zigzag n.toInt < 128 ^ (9 + 1) := Nat.lt_trans small (by decide)
  unfold readLong long groupLimit
  rw [readGroups_groups room]
  simp only [Nat.mod_eq_of_lt small, unzigzag_zigzag, Int64.ofInt_toInt]

end CourierDispatch.Avro
