/-!
# Bytes

What travels on the bus and over a connection is a list of bytes. This
module holds the three readings of such a list that the rest of the
library needs: as UTF-8 text, as hexadecimal digits, and as a big-endian
or little-endian number.

The law that matters elsewhere is `Bytes.text?_ofText`: the bytes of a
text read back as that text and no other. It holds because a `String` *is*
a valid UTF-8 byte sequence, so nothing has to be said about the encoding
itself.
-/

namespace CourierDispatch

/-- **A byte string**, first byte first. -/
abbrev Bytes := List UInt8

namespace Bytes

/-! ## Text -/

/-- The UTF-8 bytes of a text. -/
def ofText (s : String) : Bytes := s.toUTF8.data.toList

/-- The text whose UTF-8 bytes these are, if they are well-formed UTF-8:
no overlong form, no surrogate, nothing above the last code point. -/
def text? (b : Bytes) : Option String := String.fromUTF8? ⟨b.toArray⟩

@[simp]
theorem text?_ofText (s : String) : text? (ofText s) = some s := by
  have h : (⟨(ofText s).toArray⟩ : ByteArray) = s.toUTF8 := by simp [ofText]
  unfold text?
  rw [h]
  simp only [String.fromUTF8?, String.toUTF8_eq_toByteArray, dif_pos s.isValidUTF8]
  rfl

theorem length_ofText (s : String) : (ofText s).length = s.utf8ByteSize := by
  simp [ofText, String.toUTF8_eq_toByteArray]

/-- No character takes more than four bytes. -/
theorem length_ofText_ofList_le (cs : List Char) :
    (ofText (String.ofList cs)).length ≤ 4 * cs.length := by
  rw [length_ofText]
  induction cs with
  | nil => simp
  | cons c cs ih =>
    have size := c.utf8Size_le_four
    rw [String.ofList_cons, String.utf8ByteSize_append, String.utf8ByteSize_singleton,
      List.length_cons]
    omega

/-! ## Hexadecimal digits -/

/-- The digit of a value below sixteen, lower case. -/
def hexDigit (n : Nat) : Char :=
  if n < 10 then Char.ofNat (48 + n) else Char.ofNat (87 + n)

/-- The value of a hexadecimal digit of either case. -/
def hexValue? (c : Char) : Option Nat :=
  if '0' ≤ c ∧ c ≤ '9' then some (c.toNat - 48)
  else if 'a' ≤ c ∧ c ≤ 'f' then some (c.toNat - 87)
  else if 'A' ≤ c ∧ c ≤ 'F' then some (c.toNat - 55)
  else none

/-- The two digits of each byte, high half first. -/
def toHex (b : Bytes) : String :=
  String.ofList (b.flatMap fun x => [hexDigit (x.toNat / 16), hexDigit (x.toNat % 16)])

/-- Reads pairs of digits; `acc` holds the bytes read so far, last first. -/
def ofHexDigits (acc : Bytes) : List Char → Option Bytes
  | [] => some acc.reverse
  | [_] => none
  | hi :: lo :: rest =>
    match hexValue? hi, hexValue? lo with
    | some h, some l => ofHexDigits (UInt8.ofNat (16 * h + l) :: acc) rest
    | _, _ => none

/-- The bytes that a text of hexadecimal digits stands for; none if it has
an odd length or any other character. -/
def ofHex? (s : String) : Option Bytes := ofHexDigits [] s.toList

/-! ## Numbers -/

-- A power of numbers is that of the core library, whatever else a module imports:
-- a monoid's power is the default elsewhere.
attribute [instance (high), default_instance 20000] instPowNat

/-- The low `k` bytes of a number, least significant first. -/
def littleEndian (n : Nat) : Nat → Bytes
  | 0 => []
  | k + 1 => UInt8.ofNat n :: littleEndian (n / 256) k

/-- The number whose bytes these are, least significant first. -/
def ofLittleEndian : Bytes → Nat
  | [] => 0
  | x :: rest => x.toNat + 256 * ofLittleEndian rest

/-- The low `k` bytes of a number, most significant first. -/
def bigEndian (n k : Nat) : Bytes := (littleEndian n k).reverse

/-- The number whose bytes these are, most significant first. -/
def ofBigEndian (b : Bytes) : Nat := ofLittleEndian b.reverse

@[simp]
theorem length_littleEndian (n k : Nat) : (littleEndian n k).length = k := by
  induction k generalizing n with
  | zero => rfl
  | succ k ih => simp [littleEndian, ih]

/-- **`k` bytes hold a number below `256 ^ k`**, and only its remainder
otherwise. -/
theorem ofLittleEndian_littleEndian (n k : Nat) :
    ofLittleEndian (littleEndian n k) = n % 256 ^ k := by
  induction k generalizing n with
  | zero => simp [littleEndian, ofLittleEndian, Nat.mod_one]
  | succ k ih =>
    have byte : (UInt8.ofNat n).toNat = n % 256 := by simp
    simp only [littleEndian, ofLittleEndian, ih, byte]
    rw [Nat.pow_succ', Nat.mod_mul]

/-- **A byte string is recovered from its number and its length**: bytes of
value zero at its end count for nothing in the number, but the length tells
that they are there. -/
theorem littleEndian_ofLittleEndian (b : Bytes) :
    littleEndian (ofLittleEndian b) b.length = b := by
  induction b with
  | nil => rfl
  | cons x rest ih =>
    have byte : x.toNat < 256 := x.toNat_lt
    have low : (x.toNat + 256 * ofLittleEndian rest) % 256 = x.toNat := by omega
    have high : (x.toNat + 256 * ofLittleEndian rest) / 256 = ofLittleEndian rest := by omega
    have first : UInt8.ofNat (x.toNat + 256 * ofLittleEndian rest) = x := by
      apply UInt8.toNat_inj.1
      rw [UInt8.toNat_ofNat']
      exact low
    rw [ofLittleEndian, List.length_cons, littleEndian, first, high, ih]

@[simp]
theorem length_bigEndian (n k : Nat) : (bigEndian n k).length = k := by
  rw [bigEndian, List.length_reverse, length_littleEndian]

theorem ofBigEndian_bigEndian (n k : Nat) : ofBigEndian (bigEndian n k) = n % 256 ^ k := by
  rw [ofBigEndian, bigEndian, List.reverse_reverse, ofLittleEndian_littleEndian]

theorem bigEndian_ofBigEndian (b : Bytes) : bigEndian (ofBigEndian b) b.length = b := by
  rw [bigEndian, ofBigEndian, ← List.length_reverse, littleEndian_ofLittleEndian,
    List.reverse_reverse]

end Bytes

end CourierDispatch
