import CourierDispatch.Bytes

/-!
# Identifiers

Orders and couriers are named by 128-bit identifiers. They are written as
thirty-two lower-case hexadecimal digits in five groups, and read in that
form, without the hyphens, in braces, or behind `urn:uuid:`.
-/

namespace CourierDispatch

/-- **An identifier** of 128 bits. -/
structure Uuid where
  /-- The identifier as a number, first digit most significant. -/
  value : BitVec 128
  deriving DecidableEq, Repr, Hashable

namespace Uuid

instance : Inhabited Uuid := ⟨⟨0⟩⟩

/-- The last `k` hexadecimal digits of a number, most significant first. -/
def digits (n : Nat) : Nat → List Char
  | 0 => []
  | k + 1 => digits (n / 16) k ++ [Bytes.hexDigit (n % 16)]

/-- The number that hexadecimal digits of either case write on top of
`acc`. -/
def readDigits (acc : Nat) : List Char → Option Nat
  | [] => some acc
  | c :: rest =>
    match Bytes.hexValue? c with
    | some d => readDigits (16 * acc + d) rest
    | none => none

/-- Puts hyphens between groups of 8, 4, 4, 4 and 12 digits. -/
def hyphenate (ds : List Char) : List Char :=
  ds.take 8 ++ '-' :: (ds.drop 8).take 4 ++ '-' :: (ds.drop 12).take 4 ++
    '-' :: (ds.drop 16).take 4 ++ '-' :: ds.drop 20

/-- Takes the hyphens out again; none if they are not where they belong or
the text has another length. -/
def unhyphenate? (cs : List Char) : Option (List Char) :=
  if cs.length = 36 ∧ cs[8]? = some '-' ∧ cs[13]? = some '-' ∧ cs[18]? = some '-' ∧
      cs[23]? = some '-' then
    some (cs.take 8 ++ (cs.drop 9).take 4 ++ (cs.drop 14).take 4 ++ (cs.drop 19).take 4 ++
      cs.drop 24)
  else none

/-- The identifier as five groups of digits. -/
def toText (u : Uuid) : String := String.ofList (hyphenate (digits u.value.toNat 32))

instance : ToString Uuid := ⟨toText⟩

/-- What stands between a pair of braces, if the whole text is in one. -/
def unbrace? (cs : List Char) : Option (List Char) :=
  match cs with
  | '\x7b' :: rest => if rest.getLast? = some '\x7d' then some rest.dropLast else none
  | _ => none

/-- What follows `urn:uuid:`, in letters of either case. -/
def afterUrn? (cs : List Char) : Option (List Char) :=
  if (cs.take 9).map Char.toLower = "urn:uuid:".toList then some (cs.drop 9) else none

/-- The thirty-two digits of a text in any of the accepted forms. -/
def accepted? (cs : List Char) : Option (List Char) :=
  if cs.length = 32 then some cs
  else
    match unhyphenate? cs with
    | some ds => some ds
    | none =>
      match unbrace? cs with
      | some inner => unhyphenate? inner
      | none => (afterUrn? cs).bind unhyphenate?

/-- **The identifier that a text writes** in one of the accepted forms. -/
def parse? (s : String) : Option Uuid :=
  ((accepted? s.toList).bind (readDigits 0)).map fun n => ⟨BitVec.ofNat 128 n⟩

/-! ## What is written reads back -/

theorem hexValue?_hexDigit {n : Nat} (h : n < 16) : Bytes.hexValue? (Bytes.hexDigit n) = some n := by
  have : ∀ m : Fin 16, Bytes.hexValue? (Bytes.hexDigit m.val) = some m.val := by decide
  exact this ⟨n, h⟩

@[simp]
theorem length_digits (n k : Nat) : (digits n k).length = k := by
  induction k generalizing n with
  | zero => rfl
  | succ k ih => simp [digits, ih]

theorem readDigits_append (acc : Nat) (xs ys : List Char) :
    readDigits acc (xs ++ ys) = (readDigits acc xs).bind fun n => readDigits n ys := by
  induction xs generalizing acc with
  | nil => rfl
  | cons c rest ih =>
    cases h : Bytes.hexValue? c <;> simp [readDigits, h, ih]

theorem readDigits_digits (acc n k : Nat) :
    readDigits acc (digits n k) = some (acc * 16 ^ k + n % 16 ^ k) := by
  induction k generalizing n with
  | zero => simp [digits, readDigits, Nat.mod_one]
  | succ k ih =>
    have low : n % 16 < 16 := Nat.mod_lt n (by decide)
    rw [digits, readDigits_append, ih]
    simp only [Option.bind_some, readDigits, hexValue?_hexDigit low]
    rw [Nat.pow_succ', Nat.mod_mul]
    simp only [Option.some.injEq]
    rw [Nat.mul_add, Nat.mul_left_comm]
    omega

theorem unhyphenate?_hyphenate {ds : List Char} (h : ds.length = 32) :
    unhyphenate? (hyphenate ds) = some ds := by
  -- Thirty-two digits are thirty-two named characters; the rest computes.
  match ds, h with
  | [a0, a1, a2, a3, a4, a5, a6, a7, a8, a9, b0, b1, b2, b3, b4, b5, b6, b7, b8, b9,
     c0, c1, c2, c3, c4, c5, c6, c7, c8, c9, d0, d1], _ => rfl

theorem length_hyphenate {ds : List Char} (h : ds.length = 32) : (hyphenate ds).length = 36 := by
  simp [hyphenate, h]

/-- **What is written reads back** as the same identifier. -/
theorem parse?_toText (u : Uuid) : parse? u.toText = some u := by
  have len : (digits u.value.toNat 32).length = 32 := length_digits _ _
  have small : u.value.toNat < 16 ^ 32 := u.value.isLt
  have acc : accepted? (hyphenate (digits u.value.toNat 32)) = some (digits u.value.toNat 32) := by
    unfold accepted?
    rw [length_hyphenate len, if_neg (by decide), unhyphenate?_hyphenate len]
  unfold parse? toText
  rw [String.toList_ofList, acc]
  simp only [Option.bind_some, readDigits_digits, Nat.zero_mul, Nat.zero_add,
    Nat.mod_eq_of_lt small, Option.map_some, BitVec.ofNat_toNat, BitVec.setWidth_eq]

/-- Texts of different identifiers differ. -/
theorem toText_inj {u v : Uuid} (h : u.toText = v.toText) : u = v := by
  have hparse := congrArg parse? h
  rw [parse?_toText, parse?_toText] at hparse
  exact Option.some.inj hparse

end Uuid

end CourierDispatch
