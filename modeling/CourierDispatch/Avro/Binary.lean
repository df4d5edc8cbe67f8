import CourierDispatch.Avro.Resolve
import CourierDispatch.Avro.Varint

/-!
# The binary form of native values

The bytes of a value follow its schema and carry no tags: fields and items
stand one behind the other, lengths and numbers of branches in front of what
they count.

Reading is strict with one exception each for three kinds of schema. Where
the input ends in place of a boolean, or before the last byte of a text
whose length has been read, the value is null; where it ends within the
number of a branch, the value is null in the first branch. A cut-off message
can therefore read as a message with nulls in it, and it is up to the type
of the message to refuse them.
-/

namespace CourierDispatch.Avro

/-- Lengths and counts above this are refused. -/
def lengthLimit : Nat := 512 * 1024 * 1024

/-- What a schema stands for: itself, unless it is a reference. -/
def Names.target (ns : Names) : Schema → Schema
  | .ref n => (ns.find? n).getD (.ref n)
  | s => s

/-! ## Which values a schema admits -/

/-- Whether a value without parts may be written under a schema. Narrow
numbers may stand for wide ones, and plain numbers and texts for dates,
times and identifiers. -/
def leafFits : Schema → Value → Bool
  | .null, .null => true
  | .boolean, .boolean _ => true
  | .int, .int _ => true
  | .long, .int _ => true
  | .long, .long _ => true
  | .float, .float _ => true
  | .double, .float _ => true
  | .double, .double _ => true
  | .bytes, .bytes _ => true
  | .string, .string _ => true
  | .fixed _ size, .fixed b => b.length = size
  | .fixed _ size, .bytes b => b.length = size
  | .enumeration _ symbols _, .string s => symbols.contains s
  | .enumeration _ symbols default, .enumeration i s =>
    match symbols[i]? with
    | some symbol => symbol = s
    | none => default.isSome
  | .decimal _ _ _, .decimal _ => true
  | .decimal _ _ _, .bytes _ => true
  | .decimal _ _ _, .fixed _ => true
  | .duration, .duration _ => true
  | .duration, .fixed b => b.length = 12
  | .uuid, .uuid _ => true
  | .uuid, .string _ => true
  | .shortTime k, .shortTime k' _ => k = k'
  | .shortTime _, .int _ => true
  | .longTime k, .longTime k' _ => k = k'
  | .longTime _, .long _ => true
  | _, _ => false

/-- Whether some branch takes a value that is not yet a union value. -/
def someBranchFits (ns : Names) (branches : List Schema) (v : Value) : Bool :=
  (branchOfKind v.kind branches).isSome ||
    (firstBranch (resolve ns depthLimit) v 0 branches).isSome

/-- The schema against which a field's value is checked: of the last field
that has the name among its names. -/
def schemaOfField (fields : List (Field × Schema)) (name : String) : Option Schema :=
  (fields.reverse.find? fun e => e.1.name = name || e.1.aliases.contains name).map (·.2)

mutual

/-- **Whether a value may be written under a schema.** -/
def fits (ns : Names) : Value → Schema → Bool
  | .union i v, s =>
    match ns.target s with
    | .union branches =>
      match branches[i]? with
      | some b => fits ns v b
      | none => false
    | _ => false
  | .array items, s =>
    match ns.target s with
    | .array item => fitItems ns items item
    | .union branches => someBranchFits ns branches (.array items)
    | _ => false
  | .map entries, s =>
    match ns.target s with
    | .map value => fitEntries ns entries value
    | .union branches => someBranchFits ns branches (.map entries)
    | _ => false
  | .record held, s =>
    match ns.target s with
    | .record _ fields => held.length = fields.length && fitFields ns held fields
    | .union branches => someBranchFits ns branches (.record held)
    | _ => false
  | v, s =>
    match ns.target s with
    | .union branches => someBranchFits ns branches v
    | s => leafFits s v

/-- Whether all items may be written under a schema. -/
def fitItems (ns : Names) : List Value → Schema → Bool
  | [], _ => true
  | v :: rest, s => fits ns v s && fitItems ns rest s

/-- Whether all values of a map may be written under a schema. -/
def fitEntries (ns : Names) : List (String × Value) → Schema → Bool
  | [], _ => true
  | (_, v) :: rest, s => fits ns v s && fitEntries ns rest s

/-- Whether all fields of a record may be written under theirs. -/
def fitFields (ns : Names) : List (String × Value) → List (Field × Schema) → Bool
  | [], _ => true
  | (name, v) :: rest, fields =>
    (match schemaOfField fields name with
      | some s => fits ns v s
      | none => false) && fitFields ns rest fields

end

/-! ## Writing -/

/-- A length or count. -/
def writeCount (n : Nat) : Bytes := long (Int64.ofNat n)

/-- A byte string behind its length. -/
def writeSized (b : Bytes) : Bytes := writeCount b.length ++ b

/-- The bytes of a value without parts. -/
def writeLeaf : Schema → Value → Option Bytes
  | .null, .null => some []
  | .boolean, .boolean b => some [if b then 1 else 0]
  | .int, .int n => some (long n.toInt64)
  | .long, .long n => some (long n)
  | .float, .float x => some x.toBytes
  | .double, .double x => some x.toBytes
  | .bytes, .bytes b => some (writeSized b)
  | .string, .string s => some (writeSized (Bytes.ofText s))
  | .fixed _ _, .fixed b => some b
  | .enumeration _ _ _, .enumeration i _ => some (writeCount i)
  | .decimal _ _ (.fixed _ size), .decimal b => if b.length = size then some b else none
  | .decimal _ _ .bytes, .decimal b => some (writeSized b)
  | .duration, .duration b => some b
  | .uuid, .uuid u => some (writeSized (Bytes.ofText u.toText))
  | .shortTime _, .shortTime _ n => some (long n.toInt64)
  | .longTime _, .longTime _ n => some (long n)
  | _, _ => none

/-- Items as one block, with the empty block behind it that ends every
array and map. -/
def writeBlock (count : Nat) (items : Bytes) : Bytes :=
  if count = 0 then [0] else writeCount count ++ items ++ [0]

mutual

/-- The bytes of a value; none if it is not of the schema's own kind. -/
def write (ns : Names) : Value → Schema → Option Bytes
  | .union i v, s =>
    match ns.target s with
    | .union branches =>
      match branches[i]? with
      | some b => (write ns v b).map (writeCount i ++ ·)
      | none => none
    | _ => none
  | .array items, s =>
    match ns.target s with
    | .array item => (writeItems ns items item).map (writeBlock items.length)
    | _ => none
  | .map entries, s =>
    match ns.target s with
    | .map value => (writeEntries ns entries value).map (writeBlock entries.length)
    | _ => none
  | .record held, s =>
    match ns.target s with
    | .record _ fields => writeFields ns held fields
    | _ => none
  | v, s => writeLeaf (ns.target s) v

/-- The bytes of items, one behind the other. -/
def writeItems (ns : Names) : List Value → Schema → Option Bytes
  | [], _ => some []
  | v :: rest, s =>
    match write ns v s with
    | none => none
    | some b => (writeItems ns rest s).map (b ++ ·)

/-- The bytes of keys and values. -/
def writeEntries (ns : Names) : List (String × Value) → Schema → Option Bytes
  | [], _ => some []
  | (k, v) :: rest, s =>
    match write ns v s with
    | none => none
    | some b => (writeEntries ns rest s).map (writeSized (Bytes.ofText k) ++ b ++ ·)

/-- The bytes of fields in the order of the schema. -/
def writeFields (ns : Names) : List (String × Value) → List (Field × Schema) → Option Bytes
  | [], [] => some []
  | (name, v) :: held, (f, s) :: fields =>
    if name = f.name then
      match write ns v s with
      | none => none
      | some b => (writeFields ns held fields).map (b ++ ·)
    else none
  | _, _ => none

end

/-- **The bytes of a value under a schema.** -/
def encode (ns : Names) (s : Schema) (v : Value) : Option Bytes :=
  if fits ns v s then write ns v s else none

/-! ## Reading -/

/-- A length: an integer that is neither negative nor above the limit. -/
def readLength (b : Bytes) : Option (Nat × Bytes) :=
  match readLong b with
  | .error _ => none
  | .ok (n, rest) =>
    if 0 ≤ n.toInt ∧ n.toInt.toNat ≤ lengthLimit then some (n.toInt.toNat, rest) else none

/-- The number of items in a block. A negative number counts as many items
as its absolute value and is followed by their size in bytes. -/
def readBlockCount (b : Bytes) : Option (Nat × Bytes) :=
  match readLong b with
  | .error _ => none
  | .ok (n, rest) =>
    if 0 ≤ n.toInt then
      if n.toInt.toNat ≤ lengthLimit then some (n.toInt.toNat, rest) else none
    else
      match readLong rest with
      | .error _ => none
      | .ok (_, rest) =>
        if (-n.toInt).toNat ≤ lengthLimit then some ((-n.toInt).toNat, rest) else none

/-- The first `n` bytes and the rest, if there are as many. -/
def takeExactly (n : Nat) (b : Bytes) : Option (Bytes × Bytes) :=
  let head := b.take n
  if head.length = n then some (head, b.drop n) else none

/-- A byte string behind its length. -/
def readSized (b : Bytes) : Option (Bytes × Bytes) :=
  match readLength b with
  | none => none
  | some (n, rest) => takeExactly n rest

/-- A text behind its length; null, with nothing left, where the input ends
before its last byte. -/
def readText (b : Bytes) : Option (Value × Bytes) :=
  match readLength b with
  | none => none
  | some (n, rest) =>
    match takeExactly n rest with
    | none => some (.null, [])
    | some (body, rest) => (Bytes.text? body).map fun s => (.string s, rest)

/-- An integer of thirty-two bits. -/
def readInt (b : Bytes) : Option (Int32 × Bytes) :=
  match readLong b with
  | .error _ => none
  | .ok (n, rest) =>
    if -(2 ^ 31 : Int) ≤ n.toInt ∧ n.toInt < 2 ^ 31 then some (n.toInt32, rest) else none

/-- `n` items, onto `acc` in reverse. -/
def readItems {α : Type} (item : Bytes → Option (α × Bytes)) :
    Nat → List α → Bytes → Option (List α × Bytes)
  | 0, acc, b => some (acc, b)
  | n + 1, acc, b =>
    match item b with
    | none => none
    | some (x, rest) => readItems item n (x :: acc) rest

/-- Blocks of items up to the empty one, onto `acc` in reverse; every block
takes at least one byte, so `fuel` above the length of the input is
enough. -/
def readBlocks {α : Type} (item : Bytes → Option (α × Bytes)) :
    Nat → List α → Bytes → Option (List α × Bytes)
  | 0, _, _ => none
  | fuel + 1, acc, b =>
    match readBlockCount b with
    | none => none
    | some (0, rest) => some (acc.reverse, rest)
    | some (n + 1, rest) =>
      match readItems item (n + 1) acc rest with
      | none => none
      | some (acc, rest) => readBlocks item fuel acc rest

/-- A key and a value. -/
def readEntry (value : Bytes → Option (Value × Bytes)) (b : Bytes) :
    Option ((String × Value) × Bytes) :=
  match readText b with
  | some (.string k, rest) => (value rest).map fun (v, rest) => ((k, v), rest)
  | _ => none

/-- The fields of a record. -/
def readFields (again : Schema → Bytes → Option (Value × Bytes)) :
    List (Field × Schema) → Bytes → Option (List (String × Value) × Bytes)
  | [], b => some ([], b)
  | (f, s) :: rest, b =>
    match again s b with
    | none => none
    | some (v, b) => (readFields again rest b).map fun (vs, b) => ((f.name, v) :: vs, b)

/-- **One layer of reading**, with `again` for the layers below. -/
def readLayer (ns : Names) (again : Schema → Bytes → Option (Value × Bytes)) :
    Schema → Bytes → Option (Value × Bytes)
  | .null, b => some (.null, b)
  | .boolean, [] => some (.null, [])
  | .boolean, x :: rest =>
    if x = 0 then some (.boolean false, rest)
    else if x = 1 then some (.boolean true, rest)
    else none
  | .int, b => (readInt b).map fun (n, rest) => (.int n, rest)
  | .long, b =>
    match readLong b with
    | .error _ => none
    | .ok (n, rest) => some (.long n, rest)
  | .float, b => (takeExactly 4 b).map fun (x, rest) => (.float (Binary32.ofBytes x), rest)
  | .double, b => (takeExactly 8 b).map fun (x, rest) => (.double (Binary64.ofBytes x), rest)
  | .bytes, b => (readSized b).map fun (x, rest) => (.bytes x, rest)
  | .string, b => readText b
  | .array item, b =>
    (readBlocks (again item) (b.length + 1) [] b).map fun (vs, rest) => (.array vs, rest)
  | .map value, b =>
    (readBlocks (readEntry (again value)) (b.length + 1) [] b).map fun (es, rest) =>
      -- Of two values with one key the last counts.
      (.map (es.foldl (fun acc e => Table.write e.1 e.2 acc) []), rest)
  | .union branches, b =>
    match readLong b with
    | .error .endOfInput => some (.union 0 .null, [])
    | .error .tooLong => none
    | .ok (i, rest) =>
      if 0 ≤ i.toInt then
        match branches[i.toInt.toNat]? with
        | some s => (again s rest).map fun (v, rest) => (.union i.toInt.toNat v, rest)
        | none => none
      else none
  | .record _ fields, b => (readFields again fields b).map fun (vs, rest) => (.record vs, rest)
  | .enumeration _ symbols _, b =>
    match readInt b with
    | none => none
    | some (i, rest) =>
      if 0 ≤ i.toInt then
        symbols[i.toInt.toNat]?.map fun s => (.enumeration i.toInt.toNat s, rest)
      else none
  | .fixed _ size, b => (takeExactly size b).map fun (x, rest) => (.fixed x, rest)
  | .decimal _ _ (.fixed _ size), b =>
    (takeExactly size b).map fun (x, rest) => (.decimal x, rest)
  | .decimal _ _ .bytes, b => (readSized b).map fun (x, rest) => (.decimal x, rest)
  | .decimal _ _ _, _ => none
  | .duration, b => (takeExactly 12 b).map fun (x, rest) => (.duration x, rest)
  | .uuid, b =>
    match readText b with
    | some (.string s, rest) => (Uuid.parse? s).map fun u => (.uuid u, rest)
    | _ => none
  | .shortTime k, b => (readInt b).map fun (n, rest) => (.shortTime k n, rest)
  | .longTime k, b =>
    match readLong b with
    | .error _ => none
    | .ok (n, rest) => some (.longTime k n, rest)
  | .ref n, b => (ns.find? n).bind fun s => again s b

/-- Reading down to a depth. -/
def read (ns : Names) : Nat → Schema → Bytes → Option (Value × Bytes)
  | 0 => fun _ _ => none
  | depth + 1 => readLayer ns (read ns depth)

/-- **The value at the front of a byte string**, and what follows it. -/
def decode (ns : Names) (s : Schema) (b : Bytes) : Option (Value × Bytes) :=
  read ns depthLimit s b

end CourierDispatch.Avro
