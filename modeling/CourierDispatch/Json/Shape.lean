import CourierDispatch.Json.Draft

/-!
# Reading a flat record from text

Request bodies and replies are flat records: a few named fields, each a
text, a number or a word of thirty-two bits. `Record.read` walks the draft
of a text in reading order and stops at the first problem it meets, which is
either a syntax error or a wrong shape.

A record is written as an object, where unknown names are skipped and a
known name must not come twice, or as an array of the fields in order. More
items than fields count as a syntax error: the closing bracket was due.
-/

namespace CourierDispatch.Json

/-- **Why a text is refused.** -/
inductive Fault where
  /-- The text is not JSON. -/
  | notJson
  /-- It is JSON, but not of the expected shape. -/
  | wrongShape
  deriving DecidableEq, Repr

/-- **What a field holds.** -/
inductive FieldKind where
  /-- A quoted text. -/
  | text
  /-- A number, integers included. -/
  | real
  /-- A natural number below `2 ^ 32`. -/
  | word
  deriving DecidableEq

/-- The value of a field. -/
inductive FieldValue where
  /-- A quoted text. -/
  | text (s : String)
  /-- A number. -/
  | real (x : Binary64)
  /-- A natural number below `2 ^ 32`. -/
  | word (n : UInt32)

/-- **A field of a flat record.** -/
structure Field where
  /-- Its name. -/
  name : String
  /-- What it holds. -/
  kind : FieldKind
  /-- Whether it must be there. -/
  required : Bool := true

namespace Field

/-- A number as a field of a kind. -/
def ofNumber (kind : FieldKind) (j : Json) : Except Fault FieldValue :=
  match kind, j with
  | .real, j =>
    match j.real? with
    | some x => .ok (.real x)
    | none => .error .wrongShape
  | .word, .integer n =>
    if 0 ≤ n ∧ n < 2 ^ 32 then .ok (.word (UInt32.ofNat n.toNat)) else .error .wrongShape
  | _, _ => .error .wrongShape

/-- The value of a field from its draft. Arrays and objects are of the wrong
shape whatever they hold; a number out of range and a text that is no
Unicode are syntax errors even where another kind is due. -/
def read (kind : FieldKind) : Draft → Except Fault FieldValue
  | .broken => .error .notJson
  | .string none => .error .notJson
  | .string (some s) => if kind = .text then .ok (.text s) else .error .wrongShape
  | .number n =>
    match n.toJson? with
    | none => .error .notJson
    | some j => ofNumber kind j
  | _ => .error .wrongShape

end Field

namespace Record

/-- The fields of an array, by position. -/
def readItems (closed : Bool) : List Field → List Draft → Except Fault (List (Option FieldValue))
  | [], [] => if closed then .ok [] else .error .notJson
  | [], _ :: _ => .error .notJson
  | f :: fields, [] =>
    if !closed then .error .notJson
    else if f.required then .error .wrongShape
    else do return none :: (← readItems closed fields [])
  | f :: fields, d :: items => do
    let v ← Field.read f.kind d
    return some v :: (← readItems closed fields items)

/-- The fields of an object in reading order, collected in `found`. -/
def readMembers (fields : List Field) (closed : Bool) (found : List (String × FieldValue)) :
    List (Option String × Draft) → Except Fault (List (String × FieldValue))
  | [] => if closed then .ok found else .error .notJson
  | (none, _) :: _ => .error .notJson
  | (some name, d) :: rest =>
    match fields.find? fun f => f.name = name with
    | some f =>
      if found.any fun e => e.1 = name then .error .wrongShape
      else
        match Field.read f.kind d with
        | .error e => .error e
        | .ok v => readMembers fields closed (found ++ [(name, v)]) rest
    | none => if d.sound then readMembers fields closed found rest else .error .notJson

/-- The fields in their own order, from what an object held. -/
def collect (found : List (String × FieldValue)) :
    List Field → Except Fault (List (Option FieldValue))
  | [] => .ok []
  | f :: fields =>
    match found.lookup f.name with
    | some v => do return some v :: (← collect found fields)
    | none =>
      if f.required then .error .wrongShape
      else do return none :: (← collect found fields)

/-- The fields of a draft. -/
def ofDraft (fields : List Field) : Draft → Except Fault (List (Option FieldValue))
  | .array items closed => readItems closed fields items
  | .object members closed => do
    let found ← readMembers fields closed [] members
    collect found fields
  | .broken => .error .notJson
  | .string none => .error .notJson
  | .number n => if n.toJson?.isSome then .error .wrongShape else .error .notJson
  | _ => .error .wrongShape

/-- **The fields of a record that a text writes**, one entry per field;
anything but blanks behind it is a syntax error. -/
def read (fields : List Field) (b : Bytes) : Except Fault (List (Option FieldValue)) :=
  let (d, complete) := Draft.read b
  match ofDraft fields d with
  | .error e => .error e
  | .ok values => if complete then .ok values else .error .notJson

/-- The text of a record that has one field. -/
def readText (name : String) (b : Bytes) : Except Fault String :=
  match read [⟨name, .text, true⟩] b with
  | .ok [some (.text s)] => .ok s
  | .ok _ => .error .wrongShape
  | .error e => .error e

/-- The text of a record that has one field, which may be missing. -/
def readText? (name : String) (b : Bytes) : Except Fault (Option String) :=
  match read [⟨name, .text, false⟩] b with
  | .ok [some (.text s)] => .ok (some s)
  | .ok [none] => .ok none
  | .ok _ => .error .wrongShape
  | .error e => .error e

/-- The word of a record that has one field. -/
def readWord (name : String) (b : Bytes) : Except Fault UInt32 :=
  match read [⟨name, .word, true⟩] b with
  | .ok [some (.word n)] => .ok n
  | .ok _ => .error .wrongShape
  | .error e => .error e

/-- The numbers of a record that has two fields. -/
def readPair (first second : String) (b : Bytes) : Except Fault (Binary64 × Binary64) :=
  match read [⟨first, .real, true⟩, ⟨second, .real, true⟩] b with
  | .ok [some (.real x), some (.real y)] => .ok (x, y)
  | .ok _ => .error .wrongShape
  | .error e => .error e

end Record

end CourierDispatch.Json
