import CourierDispatch.Bytes

/-!
# Binary floating-point numbers as bit patterns

Coordinates are binary64 numbers, and the bus carries them bit for bit.
Here such a number *is* its sixty-four bits, and every operation is exact
arithmetic on the integer and the power of two they stand for, so that
what is proved of a number is proved of the bits on the wire.

There is one rounding function, `Format.round`: nearest, a half to the even
neighbour, beyond the largest finite number to infinity. Reading an integer,
reading a decimal and narrowing to binary32 all go through it.
-/

namespace CourierDispatch

/-! ## Formats -/

/-- **A binary interchange format**: how many bits hold the fraction and how
many the exponent, beside one bit for the sign. -/
structure Format where
  /-- Bits of the fraction field. -/
  fractionBits : Nat
  /-- Bits of the exponent field. -/
  exponentBits : Nat
  deriving DecidableEq

namespace Format

/-- The format of eight bytes. -/
def binary64 : Format := ⟨52, 11⟩

/-- The format of four bytes. -/
def binary32 : Format := ⟨23, 8⟩

/-- The exponent field of infinities and of what is not a number. -/
def topExponent (f : Format) : Nat := 2 ^ f.exponentBits - 1

/-- The power of two that one unit of the smallest numbers counts. -/
def leastScale (f : Format) : Int :=
  1 - (2 ^ (f.exponentBits - 1) - 1 : Nat) - f.fractionBits

/-- The bits of positive infinity. -/
def infinity (f : Format) : Nat := f.topExponent * 2 ^ f.fractionBits

/-- The quotient of two numbers rounded to the nearest integer, a half to
the even one. -/
def roundDiv (num den : Nat) : Nat :=
  let q := num / den
  let r := num % den
  if 2 * r < den then q
  else if den < 2 * r then q + 1
  else q + q % 2

/-- **The nearest number of a format to `num / den`**, as its bits without
the sign. One unit of the result counts the power of two `scale`: the one
that leaves the fraction its full width, but never less than the smallest
the format has. A carry out of the fraction runs into the exponent field by
itself, which is what the bits of the next number are. -/
def round (f : Format) (num den : Nat) : Nat :=
  if num = 0 then 0 else
    let guess : Int := max f.leastScale
      ((num.log2 : Int) - (den.log2 : Int) - (f.fractionBits + 1))
    let at_ (scale : Int) : Nat × Nat :=
      (num * 2 ^ (-scale).toNat, den * 2 ^ scale.toNat)
    let (n₀, d₀) := at_ guess
    let scale := if 2 ^ (f.fractionBits + 1) ≤ n₀ / d₀ then guess + 1 else guess
    let (n, d) := at_ scale
    let bits := (scale - f.leastScale).toNat * 2 ^ f.fractionBits + roundDiv n d
    min bits f.infinity

/-- The exponent field of a pattern. -/
def exponentOf (f : Format) (bits : Nat) : Nat :=
  bits / 2 ^ f.fractionBits % 2 ^ f.exponentBits

/-- The fraction field of a pattern. -/
def fractionOf (f : Format) (bits : Nat) : Nat := bits % 2 ^ f.fractionBits

/-- The integer that, times the power of two `scaleOf`, is the magnitude of
a finite number. -/
def significandOf (f : Format) (bits : Nat) : Nat :=
  if f.exponentOf bits = 0 then f.fractionOf bits
  else f.fractionOf bits + 2 ^ f.fractionBits

/-- The power of two that one unit of `significandOf` counts. -/
def scaleOf (f : Format) (bits : Nat) : Int :=
  f.leastScale + (max (f.exponentOf bits) 1 - 1 : Nat)

end Format

/-! ## Numbers of eight bytes -/

/-- **A binary64 number**, as its bits. -/
structure Binary64 where
  /-- Sign, exponent and fraction, from the top bit down. -/
  bits : UInt64
  deriving DecidableEq

/-- **A binary32 number**, as its bits. -/
structure Binary32 where
  /-- Sign, exponent and fraction, from the top bit down. -/
  bits : UInt32
  deriving DecidableEq

namespace Binary64

/-- Whether the sign bit is set. -/
def isNegative (x : Binary64) : Bool := 2 ^ 63 ≤ x.bits.toNat

/-- The bits without the sign. -/
def magnitude (x : Binary64) : Nat := x.bits.toNat % 2 ^ 63

/-- Neither infinite nor not a number. -/
def isFinite (x : Binary64) : Bool := x.magnitude < Format.binary64.infinity

/-- Not a number. -/
def isNaN (x : Binary64) : Bool := Format.binary64.infinity < x.magnitude

/-- A number from its sign and its remaining bits. -/
def ofMagnitude (negative : Bool) (magnitude : Nat) : Binary64 :=
  ⟨UInt64.ofNat ((if negative then 2 ^ 63 else 0) + magnitude)⟩

/-- The positive zero. -/
def zero : Binary64 := ⟨0⟩

/-- The nearest number to an integer. -/
def ofInt (n : Int) : Binary64 :=
  ofMagnitude (n < 0) (Format.binary64.round n.natAbs 1)

/-- The nearest number to `digits · 10 ^ exponent`, infinite when that is
beyond the largest finite number. Exponents that put the value far outside
the range are settled before any power is taken. -/
def ofDecimal (negative : Bool) (digits : Nat) (exponent : Int) : Binary64 :=
  let width : Int := digits.log2 / 3 + 1
  if digits = 0 then ofMagnitude negative 0
  else if 400 < exponent then ofMagnitude negative Format.binary64.infinity
  else if exponent + width < -400 then ofMagnitude negative 0
  else ofMagnitude negative
    (Format.binary64.round (digits * 10 ^ exponent.toNat) (10 ^ (-exponent).toNat))

/-- The place of a number that is one on a line where the two zeros are the
same point. -/
def orderKey (x : Binary64) : Int :=
  if x.isNegative then -(x.magnitude : Int) else x.magnitude

/-- Less than or equal as numbers; false whenever one side is not a
number. -/
def le (x y : Binary64) : Bool :=
  !x.isNaN && !y.isNaN && x.orderKey ≤ y.orderKey

/-- The eight bytes of a number, least significant first. -/
def toBytes (x : Binary64) : List UInt8 := Bytes.littleEndian x.bits.toNat 8

/-- The number that eight bytes hold, least significant first. -/
def ofBytes (b : List UInt8) : Binary64 := ⟨UInt64.ofNat (Bytes.ofLittleEndian b)⟩

@[simp]
theorem ofBytes_toBytes (x : Binary64) : ofBytes x.toBytes = x := by
  have h : x.bits.toNat < 256 ^ 8 := x.bits.toNat_lt
  unfold ofBytes toBytes
  rw [Bytes.ofLittleEndian_littleEndian, Nat.mod_eq_of_lt h, UInt64.ofNat_toNat]

/-- The nearest number of four bytes; what is not a number stays so, and
keeps its sign. -/
def narrow (x : Binary64) : Binary32 :=
  let sign := if x.isNegative then 2 ^ 31 else 0
  if x.isNaN then
    ⟨UInt32.ofNat (sign + Format.binary32.infinity + 2 ^ 22 + x.magnitude / 2 ^ 29 % 2 ^ 22)⟩
  else if !x.isFinite then ⟨UInt32.ofNat (sign + Format.binary32.infinity)⟩
  else
    let m := Format.binary64.significandOf x.magnitude
    let q := Format.binary64.scaleOf x.magnitude
    ⟨UInt32.ofNat (sign + Format.binary32.round (m * 2 ^ q.toNat) (2 ^ (-q).toNat))⟩

end Binary64

namespace Binary32

/-- Whether the sign bit is set. -/
def isNegative (x : Binary32) : Bool := 2 ^ 31 ≤ x.bits.toNat

/-- The bits without the sign. -/
def magnitude (x : Binary32) : Nat := x.bits.toNat % 2 ^ 31

/-- The nearest number to an integer. -/
def ofInt (n : Int) : Binary32 :=
  ⟨UInt32.ofNat ((if n < 0 then 2 ^ 31 else 0) + Format.binary32.round n.natAbs 1)⟩

/-- The same number in eight bytes; every number of four bytes is one. -/
def widen (x : Binary32) : Binary64 :=
  let top := Format.binary32.infinity
  if top < x.magnitude then
    Binary64.ofMagnitude x.isNegative
      (Format.binary64.infinity + 2 ^ 51 + x.magnitude % 2 ^ 22 * 2 ^ 29)
  else if x.magnitude = top then Binary64.ofMagnitude x.isNegative Format.binary64.infinity
  else
    let m := Format.binary32.significandOf x.magnitude
    let q := Format.binary32.scaleOf x.magnitude
    Binary64.ofMagnitude x.isNegative
      (Format.binary64.round (m * 2 ^ q.toNat) (2 ^ (-q).toNat))

/-- The four bytes of a number, least significant first. -/
def toBytes (x : Binary32) : List UInt8 := Bytes.littleEndian x.bits.toNat 4

/-- The number that four bytes hold, least significant first. -/
def ofBytes (b : List UInt8) : Binary32 := ⟨UInt32.ofNat (Bytes.ofLittleEndian b)⟩

@[simp]
theorem ofBytes_toBytes (x : Binary32) : ofBytes x.toBytes = x := by
  have h : x.bits.toNat < 256 ^ 4 := x.bits.toNat_lt
  unfold ofBytes toBytes
  rw [Bytes.ofLittleEndian_littleEndian, Nat.mod_eq_of_lt h, UInt32.ofNat_toNat]

end Binary32

end CourierDispatch
