import CourierDispatch.Location.Basic
import CourierDispatch.Table

/-!
# The store of locations

Each courier has a history of positions by time. The first position that is
stored for a time stays: reports come more than once, and a repeated one
must not change anything. Reports may also come late, so the latest position
is the one of the latest time and not the one that came last.
-/

namespace CourierDispatch

/-- Positions by time. -/
abbrev History := Table Instant Position

/-- **Histories by courier.** -/
structure LocationStore where
  /-- The histories. -/
  histories : Table Uuid History := Table.empty

namespace History

/-- The later of two entries, the first if they are of the same time. -/
def later (a b : Instant × Position) : Instant × Position := if a.1 < b.1 then b else a

/-- The entry of the latest time. -/
def latest? (h : History) : Option (Instant × Position) :=
  match h.entries with
  | [] => none
  | e :: rest => some (rest.foldl later e)

end History

namespace LocationStore

/-- The store without locations. -/
def empty : LocationStore := {}

/-- The history of a courier. -/
def history (s : LocationStore) (courierId : Uuid) : History :=
  (s.histories.get? courierId).getD Table.empty

/-- **Stores a report**, unless there is one of the courier and time. -/
def save (r : LocationReport) (s : LocationStore) : LocationStore :=
  { s with
    histories :=
      s.histories.put r.courierId ((s.history r.courierId).putNew r.createdAt r.position) }

/-- The number of times at which a courier was seen. -/
def count (courierId : Uuid) (s : LocationStore) : Nat := (s.history courierId).size

/-- **Where a courier was last seen.** -/
def latestPosition (courierId : Uuid) (s : LocationStore) : Except ServiceError Position :=
  match (s.history courierId).latest? with
  | some e => .ok e.2
  | none => .error (.notFound "courier position" courierId.toText)

end LocationStore

end CourierDispatch
