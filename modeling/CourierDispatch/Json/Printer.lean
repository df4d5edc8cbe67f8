import CourierDispatch.Json.Basic
import CourierDispatch.Decimal.Shortest

/-!
# JSON text

The compact text of a JSON value: no blank anywhere, members in the order
of the value, numbers with the fewest digits that read back.
-/

namespace CourierDispatch.Json

/-- **Numbers are written out in full** from five zeros behind the point up
to sixteen digits before it, and with an exponent beyond. -/
def numberLayout : Decimal.Layout := ⟨5, 16, "e"⟩

/-- The text of a finite number. -/
def renderReal (x : Binary64) : String :=
  numberLayout.render x.isNegative (Decimal.shortest x.magnitude)

/-- What stands for a character inside quotes: short escapes where JSON has
them, `\u` and four digits for the other control characters. -/
def escape (c : Char) : List Char :=
  if c = '"' then ['\\', '"']
  else if c = '\\' then ['\\', '\\']
  else if c = '\n' then ['\\', 'n']
  else if c = '\r' then ['\\', 'r']
  else if c = '\t' then ['\\', 't']
  else if c.toNat = 8 then ['\\', 'b']
  else if c.toNat = 12 then ['\\', 'f']
  else if c.toNat < 32 then
    ['\\', 'u', '0', '0', Bytes.hexDigit (c.toNat / 16), Bytes.hexDigit (c.toNat % 16)]
  else [c]

/-- A text in quotes, appended to `out`. -/
def renderString (out : String) (s : String) : String :=
  (s.toList.foldl (fun out c => (escape c).foldl String.push out) (out.push '"')).push '"'

mutual

/-- The text of a value, appended to `out`. -/
def renderOnto (out : String) : Json → String
  | null => out ++ "null"
  | bool true => out ++ "true"
  | bool false => out ++ "false"
  | integer n => out ++ toString n
  | real x => out ++ renderReal x
  | string s => renderString out s
  | array items => (renderItems (out.push '[') true items).push ']'
  | object members => (renderMembers (out.push '\x7b') true members).push '\x7d'

/-- The items of an array, with commas between them. -/
def renderItems (out : String) (first : Bool) : List Json → String
  | [] => out
  | j :: rest =>
    renderItems (renderOnto (if first then out else out.push ',') j) false rest

/-- The members of an object, with commas between them. -/
def renderMembers (out : String) (first : Bool) : List (String × Json) → String
  | [] => out
  | (name, j) :: rest =>
    let out := renderString (if first then out else out.push ',') name
    renderMembers (renderOnto (out.push ':') j) false rest

end

/-- **The compact text of a value.** -/
def render (j : Json) : String := renderOnto "" j

end CourierDispatch.Json
