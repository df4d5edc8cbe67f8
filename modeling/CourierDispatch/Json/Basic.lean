import CourierDispatch.Decimal.Binary64
import CourierDispatch.Table

/-!
# JSON values

The textual form of every message and of every request and answer. Numbers
come in two kinds that never mix: integers, which a text writes without
point or exponent, and binary64 numbers.

An object lists its members with distinct names. A record may also be given
as an array of its fields in order; `Json.record?` is the one place that
knows both forms, so that no message type has to.
-/

namespace CourierDispatch

/-- **A JSON value.** -/
inductive Json where
  /-- The null literal. -/
  | null
  /-- A truth value. -/
  | bool (b : Bool)
  /-- A number without point or exponent. -/
  | integer (n : Int)
  /-- Any other number. -/
  | real (x : Binary64)
  /-- A text. -/
  | string (s : String)
  /-- Values in order. -/
  | array (items : List Json)
  /-- Values by name, with distinct names. -/
  | object (members : List (String × Json))
  deriving Inhabited, BEq

namespace Json

/-- **The object of a list of members**: of two with one name the last
counts. -/
def ofMembers (members : List (String × Json)) : Json :=
  object (members.foldl (fun acc m => Table.write m.1 m.2 acc) [])

/-- The value of a name, if this is an object that has it. -/
def get? (j : Json) (name : String) : Option Json :=
  match j with
  | object members => Table.lookup name members
  | _ => none

/-- The text, if this is one. -/
def string? : Json → Option String
  | string s => some s
  | _ => none

/-- The truth value, if this is one. -/
def bool? : Json → Option Bool
  | bool b => some b
  | _ => none

/-- The number as binary64, if this is a number of either kind. -/
def real? : Json → Option Binary64
  | integer n => some (Binary64.ofInt n)
  | real x => some x
  | _ => none

/-- **The fields of a record**, one entry per name: from an object by name,
with unknown names ignored, or from an array by position. Absent fields
are `none`; an array that is longer than the record is no record. -/
def record? (names : List String) : Json → Option (List (Option Json))
  | object members => some (names.map fun n => Table.lookup n members)
  | array items =>
    if items.length ≤ names.length then
      some (items.map some ++ List.replicate (names.length - items.length) none)
    else none
  | _ => none

/-- An optional text, absent or null when there is none. -/
def optionalString? : Option Json → Option (Option String)
  | none => some none
  | some null => some none
  | some (string s) => some (some s)
  | some _ => none

/-- A text or null. -/
def ofOptionalString : Option String → Json
  | none => null
  | some s => string s

@[simp]
theorem optionalString?_ofOptionalString (s : Option String) :
    optionalString? (some (ofOptionalString s)) = some s := by
  cases s <;> rfl

/-- A number, or null for one that has no JSON form. -/
def ofReal (x : Binary64) : Json := if x.isFinite then real x else null

mutual

/-- Changes every text, names included. -/
def mapText (f : String → String) : Json → Json
  | string s => string (f s)
  | array items => array (mapTextItems f items)
  | object members => object (mapTextMembers f members)
  | j => j

/-- Changes every text of a list of values. -/
def mapTextItems (f : String → String) : List Json → List Json
  | [] => []
  | j :: rest => mapText f j :: mapTextItems f rest

/-- Changes every text of a list of members. -/
def mapTextMembers (f : String → String) : List (String × Json) → List (String × Json)
  | [] => []
  | (name, j) :: rest => (f name, mapText f j) :: mapTextMembers f rest

end

end Json

end CourierDispatch
