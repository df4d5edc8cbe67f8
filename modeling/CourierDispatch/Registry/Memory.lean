import CourierDispatch.Registry.Basic
import CourierDispatch.Table

/-!
# A registry within the process

Numbers are given out from one on, one for each pair of a subject and a
schema text. Registering takes two steps that are separate on purpose:
callers may run at the same time, and another caller of the same pair can
come in between.
-/

namespace CourierDispatch

/-- **The registry within the process.** -/
structure MemoryRegistry where
  /-- The codecs by number. -/
  codecs : Table UInt32 Avro.Codec := Table.empty
  /-- The numbers by subject and schema text. -/
  ids : Table (String × String) UInt32 := Table.empty
  /-- The number given out last. -/
  lastId : UInt32 := 0
  /-- How many pairs have been given a number. -/
  registrations : Nat := 0

namespace MemoryRegistry

/-- The registry without schemas. -/
def empty : MemoryRegistry := {}

/-- **The first step of registering**: the number of a pair, a new one if the
pair has none. -/
def allocate (subject text : String) (r : MemoryRegistry) : UInt32 × MemoryRegistry :=
  match r.ids.get? (subject, text) with
  | some id => (id, r)
  | none =>
    let id := r.lastId + 1
    (id, { r with
      ids := r.ids.put (subject, text) id
      lastId := id
      registrations := r.registrations + 1 })

/-- **The second step of registering**: the codec of a number, unless it has
one. -/
def supply (id : UInt32) (c : Avro.Codec) (r : MemoryRegistry) : MemoryRegistry :=
  { r with codecs := r.codecs.putNew id c }

/-- Registers a schema text; one that is no schema changes nothing. -/
def register (subject text : String) : StateM MemoryRegistry (Except RegistryError UInt32) :=
  fun r =>
    match Avro.Codec.compile text with
    | .error e => (.error (.schema e), r)
    | .ok c =>
      let (id, r) := r.allocate subject text
      (.ok id, r.supply id c)

/-- The codec of a number. -/
def resolve (id : UInt32) : StateM MemoryRegistry (Except RegistryError Avro.Codec) :=
  fun r =>
    match r.codecs.get? id with
    | some c => (.ok c, r)
    | none => (.error (.schemaNotFound id), r)

/-- The operations of the registry within the process. -/
def operations : Registry MemoryRegistry := ⟨register, resolve⟩

theorem resolve_of_some {r : MemoryRegistry} {id : UInt32} {c : Avro.Codec}
    (h : r.codecs.get? id = some c) : operations.resolve id r = (.ok c, r) := by
  show resolve id r = _
  unfold resolve
  rw [h]

theorem resolve_of_none {r : MemoryRegistry} {id : UInt32} (h : r.codecs.get? id = none) :
    operations.resolve id r = (.error (.schemaNotFound id), r) := by
  show resolve id r = _
  unfold resolve
  rw [h]

theorem register_of_error {r : MemoryRegistry} {subject text : String} {e : WireError}
    (h : Avro.Codec.compile text = .error e) :
    operations.register subject text r = (.error (.schema e), r) := by
  show register subject text r = _
  unfold register
  rw [h]

end MemoryRegistry

end CourierDispatch
