import CourierDispatch.Bytes

/-!
# The envelope of a message

Every message on the bus is framed as a marker byte, the number of the
writer's schema in four bytes, most significant first, and the payload. The
schema number lets a reader fetch the schema instead of receiving it with
every message.
-/

namespace CourierDispatch

/-- **An envelope**: a payload and the number of the schema it was written
with. -/
structure Envelope where
  /-- The number of the writer's schema. -/
  schemaId : UInt32
  /-- The encoded message. -/
  payload : Bytes
  deriving DecidableEq, Repr

/-- **Why bytes are no envelope.** -/
inductive EnvelopeFault where
  /-- Fewer bytes than the marker and the schema number take. -/
  | tooShort (length : Nat)
  /-- The first byte is not the marker. -/
  | unknownMarker (marker : UInt8)
  deriving DecidableEq, Repr

namespace Envelope

/-- The byte that opens every envelope. -/
def marker : UInt8 := 0

/-- The length of marker and schema number. -/
def headerLength : Nat := 5

/-- The bytes of an envelope. -/
def encode (e : Envelope) : Bytes :=
  marker :: (Bytes.bigEndian e.schemaId.toNat 4 ++ e.payload)

/-- Reads an envelope. -/
def decode (b : Bytes) : Except EnvelopeFault Envelope :=
  if b.length < headerLength then .error (.tooShort b.length)
  else
    match b with
    | [] => .error (.tooShort 0)
    | first :: rest =>
      if first ≠ marker then .error (.unknownMarker first)
      else .ok ⟨UInt32.ofNat (Bytes.ofBigEndian (rest.take 4)), rest.drop 4⟩

/-- **An envelope reads back as itself**: marker and schema number take five
bytes, whatever the number, and the payload is all that follows them. -/
theorem decode_encode (e : Envelope) : decode e.encode = .ok e := by
  have header : (Bytes.bigEndian e.schemaId.toNat 4).length = 4 := Bytes.length_bigEndian _ _
  have number : e.schemaId.toNat < 256 ^ 4 := e.schemaId.toNat_lt
  have long : ¬ e.encode.length < headerLength := by
    simp only [encode, headerLength, List.length_cons, List.length_append, header]
    omega
  unfold decode
  rw [if_neg long]
  simp only [encode, ne_eq, not_true_eq_false, if_false]
  rw [List.take_left' header, List.drop_left' header, Bytes.ofBigEndian_bigEndian,
    Nat.mod_eq_of_lt number, UInt32.ofNat_toNat]

end Envelope

/-- The wording of a fault; a marker is shown as two hexadecimal digits. -/
def EnvelopeFault.message : EnvelopeFault → String
  | tooShort n => s!"expected at least {Envelope.headerLength} bytes, got {n}"
  | unknownMarker b => "unknown format marker 0x" ++ Bytes.toHex [b]

end CourierDispatch
