import CourierDispatch.Avro.Name
import CourierDispatch.Json.Basic

/-!
# Schemas

A schema says what values there are and how their bytes are laid out. Named
schemas may refer to themselves and to each other: where a name is used
again, the schema holds a reference, and `Schema.names?` collects what the
references of a schema stand for. A name that is defined twice or not at all
makes a schema unusable, which only shows when it is used.
-/

namespace CourierDispatch.Avro

/-- Dates and times that are written as an `int`. -/
inductive ShortTime where
  /-- Days since the epoch. -/
  | date
  /-- Milliseconds since midnight. -/
  | timeMillis
  deriving DecidableEq, Repr

/-- The name of the logical type. -/
def ShortTime.name : ShortTime → String
  | date => "date"
  | timeMillis => "time-millis"

/-- Dates and times that are written as a `long`. -/
inductive LongTime where
  /-- Microseconds since midnight. -/
  | timeMicros
  /-- Milliseconds since the epoch. -/
  | timestampMillis
  /-- Microseconds since the epoch. -/
  | timestampMicros
  /-- Milliseconds since the epoch in some local time. -/
  | localTimestampMillis
  /-- Microseconds since the epoch in some local time. -/
  | localTimestampMicros
  deriving DecidableEq, Repr

/-- The name of the logical type. -/
def LongTime.name : LongTime → String
  | timeMicros => "time-micros"
  | timestampMillis => "timestamp-millis"
  | timestampMicros => "timestamp-micros"
  | localTimestampMillis => "local-timestamp-millis"
  | localTimestampMicros => "local-timestamp-micros"

/-- **A field of a record**, beside its schema. -/
structure Field where
  /-- The name under which values hold it. -/
  name : String
  /-- Other names, which only checking a value against the record uses. -/
  aliases : List String
  /-- What the field is when a value does not hold it. -/
  default : Option Json

/-- **A schema.** -/
inductive Schema where
  /-- Nothing. -/
  | null
  /-- A truth value. -/
  | boolean
  /-- An integer of thirty-two bits. -/
  | int
  /-- An integer of sixty-four bits. -/
  | long
  /-- A binary32 number. -/
  | float
  /-- A binary64 number. -/
  | double
  /-- A byte string. -/
  | bytes
  /-- A text. -/
  | string
  /-- Any number of items of one schema. -/
  | array (items : Schema)
  /-- Values of one schema by text. -/
  | map (values : Schema)
  /-- One of several schemas. -/
  | union (branches : List Schema)
  /-- Named fields in order. -/
  | record (name : Name) (fields : List (Field × Schema))
  /-- One of several symbols, and the symbol that stands for unknown ones. -/
  | enumeration (name : Name) (symbols : List String) (default : Option String)
  /-- A byte string of one size. -/
  | fixed (name : Name) (size : Nat)
  /-- An unscaled decimal in the bytes of another schema. -/
  | decimal (precision scale : Nat) (inner : Schema)
  /-- A span of months, days and milliseconds in twelve bytes. -/
  | duration
  /-- An identifier, written as text. -/
  | uuid
  /-- A date or time in an `int`. -/
  | shortTime (kind : ShortTime)
  /-- A date or time in a `long`. -/
  | longTime (kind : LongTime)
  /-- A named schema defined elsewhere. -/
  | ref (name : Name)

/-- **The kinds** of schemas and values. Within a union at most one branch
has a given kind, except for the kinds that carry names. -/
inductive Kind where
  /-- Nothing. -/
  | null
  /-- A truth value. -/
  | boolean
  /-- An integer of thirty-two bits. -/
  | int
  /-- An integer of sixty-four bits. -/
  | long
  /-- A binary32 number. -/
  | float
  /-- A binary64 number. -/
  | double
  /-- A byte string. -/
  | bytes
  /-- A text. -/
  | string
  /-- Items of one schema. -/
  | array
  /-- Values by text. -/
  | map
  /-- One of several schemas. -/
  | union
  /-- An unscaled decimal. -/
  | decimal
  /-- A span of time. -/
  | duration
  /-- An identifier. -/
  | uuid
  /-- A date or time in an `int`. -/
  | shortTime (kind : ShortTime)
  /-- A date or time in a `long`. -/
  | longTime (kind : LongTime)
  /-- A record. -/
  | record
  /-- An enumeration. -/
  | enumeration
  /-- A byte string of one size. -/
  | fixed
  /-- A reference. -/
  | ref
  deriving DecidableEq, Repr

/-- Whether schemas of a kind carry a name. -/
def Kind.isNamed : Kind → Bool
  | record | enumeration | fixed | ref => true
  | _ => false

namespace Schema

/-- The kind of a schema. -/
def kind : Schema → Kind
  | null => .null
  | boolean => .boolean
  | int => .int
  | long => .long
  | float => .float
  | double => .double
  | bytes => .bytes
  | string => .string
  | array _ => .array
  | map _ => .map
  | union _ => .union
  | record _ _ => .record
  | enumeration _ _ _ => .enumeration
  | fixed _ _ => .fixed
  | decimal _ _ _ => .decimal
  | duration => .duration
  | uuid => .uuid
  | shortTime k => .shortTime k
  | longTime k => .longTime k
  | ref _ => .ref

end Schema

/-! ## What names stand for -/

/-- Named schemas, the last defined first. -/
abbrev Names := List (Name × Schema)

/-- The schema of a name. -/
def Names.find? (ns : Names) (n : Name) : Option Schema := ns.lookup n

/-- The names with one more; none if it is there already. -/
def Names.define? (ns : Names) (n : Name) (s : Schema) : Option Names :=
  if (ns.lookup n).isSome then none else some ((n, s) :: ns)

namespace Schema

mutual

/-- The names of a schema, on top of those collected before it: none if one
is defined twice or used before it is defined. -/
def collect : Schema → Names → Option Names
  | array items, ns => collect items ns
  | map values, ns => collect values ns
  | union branches, ns => collectBranches branches ns
  | enumeration n symbols default, ns => ns.define? n (enumeration n symbols default)
  | fixed n size, ns => ns.define? n (fixed n size)
  | record n fields, ns =>
    match ns.define? n (record n fields) with
    | none => none
    | some ns => collectFields fields ns
  | ref n, ns => if (ns.find? n).isSome then some ns else none
  | null, ns | boolean, ns | int, ns | long, ns | float, ns | double, ns | bytes, ns
  | string, ns | decimal _ _ _, ns | duration, ns | uuid, ns | shortTime _, ns
  | longTime _, ns => some ns

/-- The names of the branches of a union. -/
def collectBranches : List Schema → Names → Option Names
  | [], ns => some ns
  | s :: rest, ns =>
    match collect s ns with
    | none => none
    | some ns => collectBranches rest ns

/-- The names of the fields of a record. -/
def collectFields : List (Field × Schema) → Names → Option Names
  | [], ns => some ns
  | (_, s) :: rest, ns =>
    match collect s ns with
    | none => none
    | some ns => collectFields rest ns

end

/-- **What the names in a schema stand for**: none if a name is defined twice
or has no definition. -/
def names? (s : Schema) : Option Names := collect s []

end Schema

/-- The place of a kind among branches, if the kind carries no name. Such a
branch is the only one a value of that kind may take. -/
def branchOfKind (k : Kind) (branches : List Schema) : Option Nat :=
  if k.isNamed then none else branches.findIdx? fun s => s.kind = k

end CourierDispatch.Avro
