import CourierDispatch.Avro.Value

/-!
# The tagged form of native values

The JSON of a value says nothing of its kind: an identifier and a text look
alike, as do a byte and a number. The tagged form says it all. Every value
but null is an object with one member, whose name is the kind. Numbers that
JSON might round are written as texts, floating-point numbers by their bits,
and byte strings in hexadecimal digits.
-/

namespace CourierDispatch.Avro.Value

/-- A value under the name of its kind. -/
def tagged (kind : String) (j : Json) : Json := .object [(kind, j)]

/-- A byte string in hexadecimal digits. -/
def taggedBytes (b : Bytes) : Json := .string (Bytes.toHex b)

/-- A number in `width` hexadecimal digits. -/
def taggedBits (width n : Nat) : Json := .string (String.ofList (Uuid.digits n width))

/-- A number as a text. -/
def taggedLong (n : Int64) : Json := .string (toString n.toInt)

mutual

/-- **The tagged form.** -/
def toTagged : Value → Json
  | null => .string "null"
  | boolean b => tagged "boolean" (.bool b)
  | int n => tagged "int" (.integer n.toInt)
  | long n => tagged "long" (taggedLong n)
  | float x => tagged "float" (taggedBits 8 x.bits.toNat)
  | double x => tagged "double" (taggedBits 16 x.bits.toNat)
  | bytes b => tagged "bytes" (taggedBytes b)
  | string s => tagged "string" (.string s)
  | fixed b => tagged "fixed" (.array [.integer b.length, taggedBytes b])
  | enumeration i s => tagged "enum" (.array [.integer i, .string s])
  | union i v => tagged "union" (.array [.integer i, v.toTagged])
  | array items => tagged "array" (.array (toTaggedItems items))
  | map entries => tagged "map" (.object (toTaggedEntries entries))
  | record fields => tagged "record" (.array (toTaggedFields fields))
  | decimal b => tagged "decimal" (taggedBytes b)
  | duration b => tagged "duration" (taggedBytes b)
  | uuid u => tagged "uuid" (.string u.toText)
  | shortTime kind n => tagged kind.name (.integer n.toInt)
  | longTime kind n => tagged kind.name (taggedLong n)

/-- The tagged forms of items. -/
def toTaggedItems : List Value → List Json
  | [] => []
  | v :: rest => v.toTagged :: toTaggedItems rest

/-- The tagged forms of the values of a map, under their keys. -/
def toTaggedEntries : List (String × Value) → List (String × Json)
  | [] => []
  | (key, v) :: rest => (key, v.toTagged) :: toTaggedEntries rest

/-- The tagged forms of fields, each with its name. -/
def toTaggedFields : List (String × Value) → List Json
  | [] => []
  | (name, v) :: rest => .array [.string name, v.toTagged] :: toTaggedFields rest

end

end CourierDispatch.Avro.Value
