import CourierDispatch.Bytes
import CourierDispatch.Uuid

/-!
# Paths

A path is a list of segments between slashes. A segment may write any byte
as a percent sign and two hexadecimal digits; a percent sign that no digits
follow stands for itself.
-/

namespace CourierDispatch.Http

/-- The segments of a path, with the query cut off; none if the path does
not start with a slash. -/
def segments? (path : String) : Option (List String) :=
  match (path.toList.takeWhile fun c => c ≠ '?' && c ≠ '#') with
  | '/' :: rest => some ((String.ofList rest).splitOn "/")
  | _ => none

/-- The bytes with every percent sign and its two digits replaced by the
byte they write. -/
def percentDecode : Bytes → Bytes
  | 37 :: a :: b :: rest =>
    match Bytes.hexValue? (Char.ofNat a.toNat), Bytes.hexValue? (Char.ofNat b.toNat) with
    | some x, some y => UInt8.ofNat (16 * x + y) :: percentDecode rest
    | _, _ => 37 :: percentDecode (a :: b :: rest)
  | b :: rest => b :: percentDecode rest
  | [] => []

/-- **The identifier in a segment.** -/
def uuidOfSegment? (segment : String) : Option Uuid :=
  (Bytes.text? (percentDecode (Bytes.ofText segment))).bind Uuid.parse?

end CourierDispatch.Http
