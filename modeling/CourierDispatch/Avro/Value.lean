import CourierDispatch.Avro.Schema
import CourierDispatch.Uuid

/-!
# Native values

Between its text and its bytes a message is a native value: JSON with the
kinds of the schema language told apart. `Value.ofJson` takes any JSON value
in, not knowing a schema; `Value.toJson?` gives one back and fails only for
numbers that JSON cannot write.
-/

namespace CourierDispatch.Avro

/-- **A native value.** -/
inductive Value where
  /-- Nothing. -/
  | null
  /-- A truth value. -/
  | boolean (b : Bool)
  /-- An integer of thirty-two bits. -/
  | int (n : Int32)
  /-- An integer of sixty-four bits. -/
  | long (n : Int64)
  /-- A binary32 number. -/
  | float (x : Binary32)
  /-- A binary64 number. -/
  | double (x : Binary64)
  /-- A byte string of any size. -/
  | bytes (b : Bytes)
  /-- A text. -/
  | string (s : String)
  /-- A byte string of one size. -/
  | fixed (b : Bytes)
  /-- A symbol and its place in the enumeration. -/
  | enumeration (index : Nat) (symbol : String)
  /-- A value of one branch of a union. -/
  | union (index : Nat) (v : Value)
  /-- Items in order. -/
  | array (items : List Value)
  /-- Values by text, with distinct keys. -/
  | map (entries : List (String × Value))
  /-- Named fields in order. -/
  | record (fields : List (String × Value))
  /-- The bytes of an unscaled decimal. -/
  | decimal (b : Bytes)
  /-- The twelve bytes of a span of time. -/
  | duration (b : Bytes)
  /-- An identifier. -/
  | uuid (u : Uuid)
  /-- A date or time in an `int`. -/
  | shortTime (kind : ShortTime) (n : Int32)
  /-- A date or time in a `long`. -/
  | longTime (kind : LongTime) (n : Int64)
  deriving Inhabited

namespace Value

/-- The kind of a value. -/
def kind : Value → Kind
  | null => .null
  | boolean _ => .boolean
  | int _ => .int
  | long _ => .long
  | float _ => .float
  | double _ => .double
  | bytes _ => .bytes
  | string _ => .string
  | fixed _ => .fixed
  | enumeration _ _ => .enumeration
  | union _ _ => .union
  | array _ => .array
  | map _ => .map
  | record _ => .record
  | decimal _ => .decimal
  | duration _ => .duration
  | uuid _ => .uuid
  | shortTime k _ => .shortTime k
  | longTime k _ => .longTime k

mutual

/-- **The native value of a JSON value.** Integers become longs, those above
the largest long by wrapping around. -/
def ofJson : Json → Value
  | .null => null
  | .bool b => boolean b
  | .integer n => long (Int64.ofInt n)
  | .real x => double x
  | .string s => string s
  | .array items => array (ofItems items)
  | .object members => map (ofMembers members)

/-- The native values of items. -/
def ofItems : List Json → List Value
  | [] => []
  | j :: rest => ofJson j :: ofItems rest

/-- The native values of members. -/
def ofMembers : List (String × Json) → List (String × Value)
  | [] => []
  | (name, j) :: rest => (name, ofJson j) :: ofMembers rest

end

/-- The numbers of a byte string. -/
def bytesToJson (b : Bytes) : Json := .array (b.map fun x => .integer x.toNat)

/-- A number that JSON can write. -/
def realToJson? (x : Binary64) : Option Json := if x.isFinite then some (.real x) else none

mutual

/-- **The JSON value of a native value**: none if a number in it is infinite
or not a number. Byte strings become arrays of numbers, and a union
disappears. -/
def toJson? : Value → Option Json
  | null => some .null
  | boolean b => some (.bool b)
  | int n => some (.integer n.toInt)
  | long n => some (.integer n.toInt)
  | float x => realToJson? x.widen
  | double x => realToJson? x
  | bytes b => some (bytesToJson b)
  | string s => some (.string s)
  | fixed b => some (bytesToJson b)
  | enumeration _ symbol => some (.string symbol)
  | union _ v => toJson? v
  | array items => (toItems? items).map .array
  | map entries => (toMembers? entries).map .object
  | record fields => (toMembers? fields).map .object
  | decimal b => some (bytesToJson b)
  | duration b => some (bytesToJson b)
  | uuid u => some (.string u.toText)
  | shortTime _ n => some (.integer n.toInt)
  | longTime _ n => some (.integer n.toInt)

/-- The JSON values of items. -/
def toItems? : List Value → Option (List Json)
  | [] => some []
  | v :: rest =>
    match toJson? v with
    | none => none
    | some j => (toItems? rest).map (j :: ·)

/-- The JSON values of named values. -/
def toMembers? : List (String × Value) → Option (List (String × Json))
  | [] => some []
  | (name, v) :: rest =>
    match toJson? v with
    | none => none
    | some j => (toMembers? rest).map ((name, j) :: ·)

end

end Value

end CourierDispatch.Avro
