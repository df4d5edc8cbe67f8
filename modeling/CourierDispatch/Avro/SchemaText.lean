import CourierDispatch.Avro.Resolve
import CourierDispatch.Json.Draft

/-!
# Reading schemas

A schema is written as JSON. A text names a primitive schema or one that was
defined before it, in reading order; an array is a union; an object needs a
`type` and whatever that type needs. While a record is being read its own
name already counts as defined, so that records may be recursive.

As with values, one layer is written against a function for the layers
below, and a depth is counted down.
-/

namespace CourierDispatch.Avro

/-- **The names defined so far** while a schema is being read. -/
structure Known where
  /-- Records whose fields are being read, by name and by alias. -/
  pending : List (Name × Name)
  /-- Schemas that have been read, by name and by alias, the last first. -/
  defined : Names

namespace Known

/-- No name. -/
def empty : Known := ⟨[], []⟩

/-- Notes that the fields of a record are being read. -/
def enter (k : Known) (n : Name) (aliases : List Name) : Known :=
  { k with pending := (n :: aliases).foldl (fun acc a => Table.write a n acc) k.pending }

/-- Notes that a named schema has been read. -/
def define (k : Known) (n : Name) (aliases : List Name) (s : Schema) : Known :=
  { pending := (n :: aliases).foldl (fun acc a => Table.drop a acc) k.pending
    defined := (n :: aliases).foldl (fun acc a => (a, s) :: acc) k.defined }

end Known

/-- A step of reading, which may add names and may fail. -/
abbrev Reading := StateT Known Option

/-- The members of an object. -/
abbrev Members := List (String × Json)

namespace SchemaText

/-- A member that is a text. -/
def text? (m : Members) (key : String) : Option String :=
  (Table.lookup key m).bind Json.string?

/-- A reference to a name that is defined. -/
def refer (enclosing : Option String) (name : String) : Reading Schema := do
  let n ← Name.ofText? name
  let full := n.within enclosing
  let known ← get
  if (known.defined.find? full).isSome then return .ref full
  else
    let target ← Table.lookup full known.pending
    return .ref target

/-- The schema that a text names. -/
def named (enclosing : Option String) (name : String) : Reading Schema :=
  match name with
  | "null" => return .null
  | "boolean" => return .boolean
  | "int" => return .int
  | "long" => return .long
  | "float" => return .float
  | "double" => return .double
  | "bytes" => return .bytes
  | "string" => return .string
  | other => refer enclosing other

/-- The name that an object gives to its schema. -/
def nameOf (enclosing : Option String) (m : Members) : Option Name := do
  let n ← Name.ofText? (← text? m "name")
  let space := (n.space.or (text? m "namespace")).or enclosing
  if space.all isNamespace then some ⟨n.simple, space⟩ else none

/-- The other names that an object gives to its schema, in its namespace
unless they have one of their own. None are given unless all are texts. -/
def aliasesOf (n : Name) (m : Members) : Option (List Name) :=
  match Table.lookup "aliases" m with
  | some (.array items) =>
    match items.mapM Json.string? with
    | none => some []
    | some texts => texts.mapM fun t =>
      let full := if t.toList.contains '.' then t else
        match n.space with
        | some s => s ++ "." ++ t
        | none => t
      Name.ofText? full
  | _ => some []

/-- What the word in `type` itself names, for objects that lack the members
which that word calls for. -/
def alreadySeen (enclosing : Option String) (m : Members) : Reading (Option Schema) := do
  match text? m "type" with
  | none => return none
  | some word =>
    let n ← Name.ofText? word
    let full := n.within enclosing
    let known ← get
    match Table.lookup full known.pending with
    | some target => return some (.ref target)
    | none => return known.defined.find? full

/-- A schema that needs a member, or the schema seen before in its place. -/
def needing (enclosing : Option String) (m : Members) (key : String)
    (body : Json → Reading Schema) : Reading Schema := do
  match Table.lookup key m with
  | some j => body j
  | none =>
    match ← alreadySeen enclosing m with
    | some s => return s
    | none => failure

/-- Names that are simple and distinct. -/
def distinctNames : List String → Bool
  | [] => true
  | s :: rest => isSimpleName s.toList && !rest.contains s && distinctNames rest

/-- An enumeration. -/
def enumeration (enclosing : Option String) (m : Members) : Reading Schema :=
  needing enclosing m "symbols" fun symbols => do
    let n ← nameOf enclosing m
    let aliases ← aliasesOf n m
    let symbols ← match symbols with
      | .array items => liftM (items.mapM Json.string?)
      | _ => failure
    if !distinctNames symbols then failure
    let default ← match Table.lookup "default" m with
      | none => pure none
      | some (.string s) => if symbols.contains s then pure (some s) else failure
      | some _ => failure
    let s := Schema.enumeration n symbols default
    modify fun k => k.define n aliases s
    return s

/-- A byte string of one size. -/
def fixed (enclosing : Option String) (m : Members) : Reading Schema :=
  needing enclosing m "size" fun size => do
    let size ← match size with
      | .integer k => if 0 ≤ k then pure k.toNat else failure
      | _ => failure
    let n ← nameOf enclosing m
    let aliases ← aliasesOf n m
    let s := Schema.fixed n size
    modify fun k => k.define n aliases s
    return s

/-- A union: no union within it, and no two branches of one unnamed kind. -/
def unionOf (branches : List Schema) : Option Schema :=
  let unnamed := (branches.map Schema.kind).filter fun k => !k.isNamed
  if unnamed.contains .union || !unnamed.Nodup then none else some (.union branches)

/-- A member that is a whole number, or what stands for an absent one. -/
def wholeNumber (m : Members) (key : String) (absent : Option Nat) : Option Nat :=
  match Table.lookup key m with
  | none => absent
  | some (.integer k) => if 0 ≤ k then some k.toNat else none
  | some _ => none

/-- Whether a default fits its field: any branch will do for a union. -/
def defaultFits (names : Names) (s : Schema) (default : Json) : Bool :=
  let v := Value.ofJson default
  match s with
  | .union branches => branches.any fun b => (resolve names depthLimit b v).isSome
  | s => (resolve names depthLimit s v).isSome

/-- Whether the fields of a record can be told apart: no field has the name
of an earlier one, or an alias of it. -/
def distinctFields (taken : List String) : List (Field × Schema) → Bool
  | [] => true
  | (f, _) :: rest =>
    !taken.contains f.name && distinctFields (f.name :: f.aliases ++ taken) rest

/-- The word at the heart of a type: a type may be an object that has a
`type` itself, and so on down to a word. -/
def innermostWord? : Nat → Json → Option String
  | 0, _ => none
  | _ + 1, .string word => some word
  | depth + 1, .object m => (Table.lookup "type" m).bind (innermostWord? depth)
  | _ + 1, _ => none

section Layer

variable (again : Option String → Json → Reading Schema)

/-- The schema under a logical type, or nothing if it is not of one of the
kinds that the logical type needs. -/
def underlying (enclosing : Option String) (m : Members) (kinds : List Kind) :
    Reading (Option Schema) := do
  match Table.lookup "type" m with
  | none => failure
  | some t =>
    let s ← if t.string? = some "fixed" then fixed enclosing m else again enclosing t
    return if kinds.contains s.kind then some s else none

/-- A logical type that cannot stand on another kind. -/
def strictLogical (enclosing : Option String) (m : Members) (kinds : List Kind) :
    Reading Schema := do
  match ← underlying again enclosing m kinds with
  | some s => return s
  | none => failure

/-- A logical type that is ignored on another kind, where the word at the
heart of the type is a schema by itself. -/
def lenientLogical (enclosing : Option String) (m : Members) (kind : Kind) (logical : Schema) :
    Reading Schema := do
  match ← underlying again enclosing m [kind] with
  | some _ => return logical
  | none =>
    let word ← (Table.lookup "type" m).bind (innermostWord? Json.depthLimit)
    again enclosing (.string word)

/-- The schema of a logical type, or nothing if the type is unknown. -/
def logical? (enclosing : Option String) (m : Members) (logicalType : String) :
    Option (Reading Schema) :=
  let lenient := lenientLogical again enclosing m
  match logicalType with
  | "decimal" => some do
    let inner ← strictLogical again enclosing m [.fixed, .bytes]
    let precision ← wholeNumber m "precision" none
    let scale ← wholeNumber m "scale" (some 0)
    if precision < 1 || precision < scale then failure
    return .decimal precision scale inner
  | "uuid" => some do
    let _ ← strictLogical again enclosing m [.string]
    return .uuid
  | "duration" => some do
    let _ ← strictLogical again enclosing m [.fixed]
    return .duration
  | "date" => some (lenient .int (.shortTime .date))
  | "time-millis" => some (lenient .int (.shortTime .timeMillis))
  | "time-micros" => some (lenient .long (.longTime .timeMicros))
  | "timestamp-millis" => some (lenient .long (.longTime .timestampMillis))
  | "timestamp-micros" => some (lenient .long (.longTime .timestampMicros))
  | "local-timestamp-millis" => some (lenient .long (.longTime .localTimestampMillis))
  | "local-timestamp-micros" => some (lenient .long (.longTime .localTimestampMicros))
  | _ => none

/-- A schema of a word that needs no fields. -/
def simple (enclosing : Option String) (m : Members) (word : String) : Reading Schema :=
  match word with
  | "enum" => enumeration enclosing m
  | "fixed" => fixed enclosing m
  | "array" => do
    let items ← Table.lookup "items" m
    return .array (← again enclosing items)
  | "map" => do
    let values ← Table.lookup "values" m
    return .map (← again enclosing values)
  | other => named enclosing other

/-- The schema of an object whose logical type, if any, is unknown; `record`
says what the word `record` means. -/
def ofType (enclosing : Option String) (m : Members) (record : Reading Schema) :
    Reading Schema := do
  match Table.lookup "type" m with
  | some (.string "record") => record
  | some (.string word) => simple again enclosing m word
  | some (.object inner) => again enclosing (.object inner)
  | some (.array inner) => again enclosing (.array inner)
  | _ => failure

/-- The schema of an object. -/
def ofObject (enclosing : Option String) (m : Members) (record : Reading Schema) :
    Reading Schema :=
  match Table.lookup "logicalType" m with
  | some (.string t) => (logical? again enclosing m t).getD (ofType again enclosing m record)
  | some _ => failure
  | none => ofType again enclosing m record

/-- A field of a record. The field itself is the object that says its type;
there the word `record` is a name like any other. -/
def field (space : Option String) (m : Members) : Reading (Field × Schema) := do
  let name ← text? m "name"
  if !isSimpleName name.toList then failure
  let s ← ofObject again space m (refer space "record")
  let default := Table.lookup "default" m
  match default with
  | none => pure ()
  | some j => if !defaultFits (← get).defined s j then failure
  let aliases := match Table.lookup "aliases" m with
    | some (.array items) => items.filterMap Json.string?
    | _ => []
  return (⟨name, aliases, default⟩, s)

/-- The fields of a record; what is no object is skipped. -/
def fields (space : Option String) : List Json → Reading (List (Field × Schema))
  | [] => return []
  | .object m :: rest => do
    let f ← field again space m
    return f :: (← fields space rest)
  | _ :: rest => fields space rest

/-- A record. -/
def record (enclosing : Option String) (m : Members) : Reading Schema :=
  needing enclosing m "fields" fun items => do
    let n ← nameOf enclosing m
    let aliases ← aliasesOf n m
    modify fun k => k.enter n aliases
    let fs ← match items with
      | .array items => fields again n.space items
      | _ => failure
    if !distinctFields [] fs then failure
    let s := Schema.record n fs
    modify fun k => k.define n aliases s
    return s

/-- The branches of a union, in order. -/
def branches (enclosing : Option String) : List Json → Reading (List Schema)
  | [] => return []
  | j :: rest => do
    let s ← again enclosing j
    return s :: (← branches enclosing rest)

/-- **One layer of reading a schema**, with `again` for the layers below. -/
def layer (enclosing : Option String) : Json → Reading Schema
  | .string name => named enclosing name
  | .object m => ofObject again enclosing m (record again enclosing m)
  | .array items => do
    let bs ← branches again enclosing items
    unionOf bs
  | _ => failure

end Layer

/-- Reading a schema down to a depth. -/
def readDepth : Nat → Option String → Json → Reading Schema
  | 0 => fun _ _ => failure
  | depth + 1 => layer (readDepth depth)

end SchemaText

/-- **The schema that a JSON value describes.** JSON text is nested less deep
than `Json.depthLimit`, and each level of it takes at most two layers. -/
def Schema.ofJson? (j : Json) : Option Schema :=
  (SchemaText.readDepth (4 * Json.depthLimit) none j).run Known.empty |>.map Prod.fst

/-- **The schema that a text describes.** -/
def Schema.ofText? (s : String) : Option Schema := (Json.ofText? s).bind Schema.ofJson?

end CourierDispatch.Avro
