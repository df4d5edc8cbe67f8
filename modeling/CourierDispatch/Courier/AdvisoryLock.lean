import CourierDispatch.Uuid

/-!
# Lock numbers of orders

A database serialises the work on one order by a lock that is a signed
64-bit number. The number is a hash of the order's identifier as text.
-/

namespace CourierDispatch.AdvisoryLock

/-- Mixes one byte into the hash. -/
def mixByte (h : UInt64) (b : UInt8) : UInt64 := (h ^^^ b.toUInt64) * 0x100000001b3

/-- The hash of bytes. -/
def hash (b : Bytes) : UInt64 := b.foldl mixByte 0xcbf29ce484222325

/-- **The lock number of an order.** -/
def key (orderId : Uuid) : Int := (hash (Bytes.ofText orderId.toText)).toInt64.toInt

end CourierDispatch.AdvisoryLock
