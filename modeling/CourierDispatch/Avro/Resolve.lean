import CourierDispatch.Avro.Value

/-!
# Fitting values to a schema

`resolve` takes a native value that knows nothing of a schema and gives the
value of the schema that it stands for: a long becomes an `int` by dropping
its high bits, a number becomes a `double`, a text a byte string, a map a
record with defaults filled in, and a value of a union gets the number of
its branch.

References and defaults make the recursion one on neither the schema nor the
value, so `resolve` counts down a depth. One layer of it, `resolveLayer`, is
written against an arbitrary function for the next layer; what holds of one
layer then holds at every depth by induction.
-/

namespace CourierDispatch.Avro

/-- How deep values and schemas may be nested. -/
def depthLimit : Nat := 1000000

/-- The value inside a union value, where no union is expected. -/
def Value.outOfUnion (s : Schema) (v : Value) : Value :=
  match s, v with
  | .union _, v => v
  | _, .union _ w => w
  | _, v => v

/-- An integer of either width as one byte, after dropping the high bits of
a long. -/
def Value.byte? (v : Value) : Option UInt8 :=
  let ofShort (n : Int32) : Option UInt8 :=
    if 0 ≤ n.toInt ∧ n.toInt ≤ 255 then some (UInt8.ofNat n.toInt.toNat) else none
  match v.outOfUnion .int with
  | .int n => ofShort n
  | .long n => ofShort n.toInt32
  | _ => none

/-- A symbol in an enumeration: itself if it is one of the symbols, else the
default symbol. -/
def resolveSymbol (symbols : List String) (default : Option String) (symbol : String) :
    Option Value :=
  let place (s : String) := (symbols.findIdx? (· = s)).map fun i => Value.enumeration i s
  match place symbol with
  | some v => some v
  | none => default.bind place

/-- A text or a symbol as a value of an enumeration. -/
def resolveEnumeration (symbols : List String) (default : Option String) :
    Value → Option Value
  | .string s => resolveSymbol symbols default s
  | .enumeration i s => if i ≤ symbols.length then resolveSymbol symbols default s else none
  | _ => none

/-- The most decimal digits that a two's complement number of `n` bytes can
hold whatever they are. -/
def digitsOfBytes (n : Nat) : Nat :=
  if n = 0 then 0 else (Nat.toDigits 10 (2 ^ (8 * n - 1) - 1)).length - 1

/-- The first branch that a value resolves against, counted from `i`. -/
def firstBranch (again : Schema → Value → Option Value) (v : Value) (i : Nat) :
    List Schema → Option Value
  | [] => none
  | s :: rest =>
    match again s v with
    | some w => some (.union i w)
    | none => firstBranch again v (i + 1) rest

/-- A value as a value of a union: of the branch of its own kind if there is
one, else of the first branch that it resolves against. -/
def resolveUnion (again : Schema → Value → Option Value) (branches : List Schema) (v : Value) :
    Option Value :=
  let v := match v with
    | .union _ w => w
    | v => v
  match branchOfKind v.kind branches with
  | some i => (branches[i]?.bind fun s => again s v).map (.union i)
  | none => firstBranch again v 0 branches

/-- What stands for a field that a value does not hold. The default of a
union is a value of its first branch, whatever it would match otherwise. -/
def defaultOf (again : Schema → Value → Option Value) (f : Field) (s : Schema) : Option Value :=
  match f.default with
  | none => none
  | some j =>
    match s with
    | .enumeration _ symbols default => resolveEnumeration symbols default (.ofJson j)
    | .union [] => none
    | .union (.null :: _) => some (.union 0 .null)
    | .union (first :: _) => (again first (.ofJson j)).map (.union 0)
    | _ => some (.ofJson j)

/-- The fields of a record, in the order of the schema. -/
def resolveFields (again : Schema → Value → Option Value) (held : List (String × Value)) :
    List (Field × Schema) → Option (List (String × Value))
  | [] => some []
  | (f, s) :: rest =>
    match ((Table.lookup f.name held).or (defaultOf again f s)).bind (again s) with
    | none => none
    | some v => (resolveFields again held rest).map ((f.name, v) :: ·)

/-- The items of an array. -/
def resolveItems (again : Value → Option Value) : List Value → Option (List Value)
  | [] => some []
  | v :: rest =>
    match again v with
    | none => none
    | some w => (resolveItems again rest).map (w :: ·)

/-- The values of a map. -/
def resolveEntries (again : Value → Option Value) :
    List (String × Value) → Option (List (String × Value))
  | [] => some []
  | (k, v) :: rest =>
    match again v with
    | none => none
    | some w => (resolveEntries again rest).map ((k, w) :: ·)

/-- **One layer of resolving**, with `again` for the layers below. -/
def resolveLayer (ns : Names) (again : Schema → Value → Option Value) (s : Schema) (v : Value) :
    Option Value :=
  match s, v.outOfUnion s with
  | .ref n, v => (ns.find? n).bind fun s => again s v
  | .null, .null => some .null
  | .boolean, .boolean b => some (.boolean b)
  | .int, .int n => some (.int n)
  | .int, .long n => some (.int n.toInt32)
  | .long, .int n => some (.long n.toInt64)
  | .long, .long n => some (.long n)
  | .float, .int n => some (.float (Binary32.ofInt n.toInt))
  | .float, .long n => some (.float (Binary32.ofInt n.toInt))
  | .float, .float x => some (.float x)
  | .float, .double x => some (.float x.narrow)
  | .double, .int n => some (.double (Binary64.ofInt n.toInt))
  | .double, .long n => some (.double (Binary64.ofInt n.toInt))
  | .double, .float x => some (.double x.widen)
  | .double, .double x => some (.double x)
  | .bytes, .bytes b => some (.bytes b)
  | .bytes, .string s => some (.bytes (Bytes.ofText s))
  | .bytes, .array items => (items.mapM Value.byte?).map .bytes
  | .string, .string s => some (.string s)
  | .string, .bytes b => (Bytes.text? b).map .string
  | .string, .fixed b => (Bytes.text? b).map .string
  | .fixed _ size, .fixed b => if b.length = size then some (.fixed b) else none
  | .fixed _ _, .string s => some (.fixed (Bytes.ofText s))
  | .fixed _ size, .bytes b => if b.length = size then some (.fixed b) else none
  | .enumeration _ symbols default, v => resolveEnumeration symbols default v
  | .union branches, v => resolveUnion again branches v
  | .array items, .array vs => (resolveItems (again items) vs).map .array
  | .map values, .map entries => (resolveEntries (again values) entries).map .map
  | .record _ fields, .map held => (resolveFields again held fields).map .record
  | .record _ fields, .record held => (resolveFields again held fields).map .record
  | .decimal precision _ inner, v =>
    let fits : Bool := match inner with
      | .fixed _ size => precision ≤ digitsOfBytes size
      | .bytes => true
      | _ => false
    let held? : Option Bytes := match v with
      | .decimal b => some b
      | .fixed b => some b
      | .bytes b => some b
      | _ => none
    held?.bind fun b =>
      if fits ∧ precision ≤ digitsOfBytes b.length then some (.decimal b) else none
  | .duration, .duration b => some (.duration b)
  | .duration, .fixed b => if b.length = 12 then some (.duration b) else none
  | .uuid, .uuid u => some (.uuid u)
  | .uuid, .string s => (Uuid.parse? s).map .uuid
  | .shortTime k, .shortTime k' n => if k = k' then some (.shortTime k n) else none
  | .shortTime k, .int n => some (.shortTime k n)
  | .longTime k, .longTime k' n => if k = k' then some (.longTime k n) else none
  | .longTime k, .long n => some (.longTime k n)
  | .longTime k, .int n => some (.longTime k n.toInt64)
  | _, _ => none

/-- Resolving down to a depth. -/
def resolve (ns : Names) : Nat → Schema → Value → Option Value
  | 0 => fun _ _ => none
  | depth + 1 => resolveLayer ns (resolve ns depth)

end CourierDispatch.Avro
