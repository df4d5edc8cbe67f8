import CourierDispatch.Json.Basic

/-!
# JSON text as far as it can be read

Reading a request body has to tell two faults apart: text that is not JSON
and JSON of the wrong shape. Which one counts is decided by the first
problem in reading order, so a syntax error behind a wrong type must not
hide it, nor the other way round.

`Draft.read` therefore never fails. It gives the tree of everything in front
of the first syntax error, with the error as a leaf in its place, and leaves
it to the reader of the tree to meet either problem first. Two faults are no
syntax errors before somebody uses the value: a number beyond the range of
binary64 and a quoted text that is not Unicode; both stay in the tree.
-/

namespace CourierDispatch.Json

/-- **A number as written**: `± digits · 10 ^ exponent`. -/
structure Numeral where
  /-- Whether a minus sign stands in front. -/
  negative : Bool
  /-- All digits, read as one number. -/
  digits : Nat
  /-- The power of ten of the last digit. -/
  exponent : Int
  /-- Neither a point nor an exponent was written. -/
  plain : Bool

/-- **The tree of a text up to its first syntax error.** -/
inductive Draft where
  /-- The null literal. -/
  | null
  /-- A truth value. -/
  | bool (b : Bool)
  /-- A number, of whatever size. -/
  | number (n : Numeral)
  /-- A quoted text; `none` if what it holds is not Unicode. -/
  | string (s : Option String)
  /-- Items in order; `closed` if the bracket was reached. -/
  | array (items : List Draft) (closed : Bool)
  /-- Members in order; `closed` if the brace was reached. -/
  | object (members : List (Option String × Draft)) (closed : Bool)
  /-- A syntax error in place of a value. -/
  | broken
  deriving Inhabited

/-- The number as a value: an integer if it is written as one and fits
sixty-four bits, signed or unsigned, else binary64; none beyond its range.
A negative zero is no integer. -/
def Numeral.toJson? (n : Numeral) : Option Json :=
  let value : Int := if n.negative then -(n.digits : Int) else n.digits
  if n.plain ∧ -(2 ^ 63 : Int) ≤ value ∧ value < 2 ^ 64 ∧ ¬ (n.negative ∧ n.digits = 0) then
    some (.integer value)
  else
    let x := Binary64.ofDecimal n.negative n.digits n.exponent
    if x.isFinite then some (.real x) else none

namespace Draft

/-- Blank, tab, line feed or carriage return. -/
def isBlank (b : UInt8) : Bool := b = 32 || b = 9 || b = 10 || b = 13

/-- The text behind blanks. -/
def skipBlanks (b : Bytes) : Bytes := b.dropWhile isBlank

/-- An ASCII digit. -/
def isDigit (b : UInt8) : Bool := 48 ≤ b && b ≤ 57

/-- The digits at the front, as a number on top of `acc`, how many they are,
and what follows. -/
def digits (acc count : Nat) : Bytes → Nat × Nat × Bytes
  | [] => (acc, count, [])
  | b :: rest =>
    if isDigit b then digits (10 * acc + (b.toNat - 48)) (count + 1) rest
    else (acc, count, b :: rest)

/-- The exponent behind a numeral, zero if there is none. -/
def exponent? : Bytes → Option (Int × Bool × Bytes)
  | [] => some (0, false, [])
  | b :: rest =>
    if b = 101 || b = 69 then
      let (negative, rest) := match rest with
        | 43 :: r => (false, r)
        | 45 :: r => (true, r)
        | r => (false, r)
      let (value, count, rest) := digits 0 0 rest
      if count = 0 then none
      else some (if negative then -(value : Int) else value, true, rest)
    else some (0, false, b :: rest)

/-- A number behind its sign: no superfluous zero in front, at least one
digit before and behind a point. -/
def numeral? (negative : Bool) (b : Bytes) : Option (Numeral × Bytes) :=
  let (whole, count, rest) := digits 0 0 b
  let zeroFirst := match b with
    | 48 :: _ => true
    | _ => false
  if count = 0 || (zeroFirst && 1 < count) then none
  else
    match rest with
    | 46 :: rest =>
      let (all, places, rest) := digits whole 0 rest
      if places = 0 then none
      else (exponent? rest).map fun (e, _, rest) =>
        (⟨negative, all, e - places, false⟩, rest)
    | _ => (exponent? rest).map fun (e, written, rest) =>
        (⟨negative, whole, e, !written⟩, rest)

/-- The value of four hexadecimal digits. -/
def fourHex? : Bytes → Option (Nat × Bytes)
  | a :: b :: c :: d :: rest =>
    let digit (x : UInt8) : Option Nat := Bytes.hexValue? (Char.ofNat x.toNat)
    match digit a, digit b, digit c, digit d with
    | some a, some b, some c, some d => some (((a * 16 + b) * 16 + c) * 16 + d, rest)
    | _, _, _, _ => none
  | _ => none

/-- **One unit of a quoted text**: bytes as they are, or the sixteen bits of
an escape. -/
inductive Piece where
  /-- A byte of the text itself. -/
  | byte (b : UInt8)
  /-- A `\u` escape. -/
  | unit (n : Nat)

/-- The pieces of a quoted text behind its opening quote, last first, and
what follows the closing quote; none where a control character stands, an
escape is unknown or the quote never closes. -/
def pieces (acc : List Piece) : Nat → Bytes → Option (List Piece × Bytes)
  | 0, _ => none
  | _ + 1, [] => none
  | fuel + 1, b :: rest =>
    if b = 34 then some (acc, rest)
    else if b < 32 then none
    else if b = 92 then
      match rest with
      | [] => none
      | e :: rest =>
        if e = 117 then
          match fourHex? rest with
          | some (n, rest) => pieces (.unit n :: acc) fuel rest
          | none => none
        else
          let plain (x : UInt8) := pieces (.byte x :: acc) fuel rest
          if e = 34 then plain 34
          else if e = 92 then plain 92
          else if e = 47 then plain 47
          else if e = 98 then plain 8
          else if e = 102 then plain 12
          else if e = 110 then plain 10
          else if e = 114 then plain 13
          else if e = 116 then plain 9
          else none
    else pieces (.byte b :: acc) fuel rest

/-- The UTF-8 bytes of a code point that is no surrogate, onto `acc` in
reverse. -/
def pushScalar (n : Nat) (acc : Bytes) : Bytes :=
  (Bytes.ofText (String.singleton (Char.ofNat n))).reverseAux acc

/-- The bytes of pieces in reverse; none where a surrogate stands alone. A
high and a low surrogate in a row make one code point. -/
def assemble (acc : Bytes) : List Piece → Option Bytes
  | [] => some acc
  | .byte b :: rest => assemble (b :: acc) rest
  | .unit n :: rest =>
    if n < 0xD800 || 0xDFFF < n then assemble (pushScalar n acc) rest
    else if n < 0xDC00 then
      match rest with
      | .unit low :: rest =>
        if 0xDC00 ≤ low && low ≤ 0xDFFF then
          assemble (pushScalar (0x10000 + (n - 0xD800) * 1024 + (low - 0xDC00)) acc) rest
        else none
      | _ => none
    else none

/-- A quoted text behind its opening quote. -/
def quoted? (b : Bytes) : Option (Option String × Bytes) :=
  (pieces [] (b.length + 1) b).map fun (ps, rest) =>
    ((assemble [] ps.reverse).bind fun bytes => Bytes.text? bytes.reverse, rest)

/-- The text behind a literal, if it stands there. -/
def literal? (word : Bytes) (b : Bytes) : Option Bytes :=
  if word.isPrefixOf b then some (b.drop word.length) else none

mutual

/-- A value and what follows it; nothing follows a syntax error. -/
def value : Nat → Bytes → Draft × Option Bytes
  | 0, _ => (broken, none)
  | fuel + 1, b =>
    match skipBlanks b with
    | [] => (broken, none)
    | c :: rest =>
      let word (w : String) (d : Draft) : Draft × Option Bytes :=
        match literal? (Bytes.ofText w) (c :: rest) with
        | some rest => (d, some rest)
        | none => (broken, none)
      if c = 34 then
        match quoted? rest with
        | some (s, rest) => (string s, some rest)
        | none => (broken, none)
      else if c = 91 then
        match skipBlanks rest with
        | 93 :: rest => (array [] true, some rest)
        | rest => items fuel [] rest
      else if c = 123 then
        match skipBlanks rest with
        | 125 :: rest => (object [] true, some rest)
        | rest => members fuel [] rest
      else if c = 110 then word "null" null
      else if c = 116 then word "true" (bool true)
      else if c = 102 then word "false" (bool false)
      else
        let (negative, body) := if c = 45 then (true, rest) else (false, c :: rest)
        match numeral? negative body with
        | some (n, rest) => (number n, some rest)
        | none => (broken, none)

/-- The items of an array from the next one on; `acc` holds those before,
last first. -/
def items : Nat → List Draft → Bytes → Draft × Option Bytes
  | 0, acc, _ => (array acc.reverse false, none)
  | fuel + 1, acc, b =>
    match skipBlanks b with
    | 93 :: _ => (array acc.reverse false, none)
    | b =>
      match value fuel b with
      | (d, none) => (array (d :: acc).reverse false, none)
      | (d, some rest) =>
        match skipBlanks rest with
        | 44 :: rest => items fuel (d :: acc) rest
        | 93 :: rest => (array (d :: acc).reverse true, some rest)
        | _ => (array (d :: acc).reverse false, none)

/-- The members of an object from the next one on; `acc` holds those before,
last first. -/
def members : Nat → List (Option String × Draft) → Bytes → Draft × Option Bytes
  | 0, acc, _ => (object acc.reverse false, none)
  | fuel + 1, acc, b =>
    match skipBlanks b with
    | 34 :: rest =>
      match quoted? rest with
      | none => (object acc.reverse false, none)
      | some (name, rest) =>
        match skipBlanks rest with
        | 58 :: rest =>
          match value fuel rest with
          | (d, none) => (object ((name, d) :: acc).reverse false, none)
          | (d, some rest) =>
            match skipBlanks rest with
            | 44 :: rest => members fuel ((name, d) :: acc) rest
            | 125 :: rest => (object ((name, d) :: acc).reverse true, some rest)
            | _ => (object ((name, d) :: acc).reverse false, none)
        | _ => (object ((name, broken) :: acc).reverse false, none)
    | _ => (object acc.reverse false, none)

end

/-- **The tree of a text**, and whether nothing but blanks follows it. -/
def read (b : Bytes) : Draft × Bool :=
  match value (2 * b.length + 2) b with
  | (d, some rest) => (d, (skipBlanks rest).isEmpty)
  | (d, none) => (d, false)

mutual

/-- Whether there is no syntax error anywhere in the tree. -/
def sound : Draft → Bool
  | broken => false
  | array items closed => closed && soundItems items
  | object members closed => closed && soundMembers members
  | _ => true

/-- Whether no item holds a syntax error. -/
def soundItems : List Draft → Bool
  | [] => true
  | d :: rest => sound d && soundItems rest

/-- Whether no member holds a syntax error. -/
def soundMembers : List (Option String × Draft) → Bool
  | [] => true
  | (_, d) :: rest => sound d && soundMembers rest

end

mutual

/-- The value of a tree: none if it holds a syntax error, a number out of
range, a text that is no text, or arrays and objects `depth` deep. -/
def toJson? (depth : Nat) : Draft → Option Json
  | null => some .null
  | bool b => some (.bool b)
  | number n => n.toJson?
  | string s => s.map .string
  | array items closed =>
    match depth with
    | 0 | 1 => none
    | depth + 1 => if closed then (toItems? depth items).map .array else none
  | object members closed =>
    match depth with
    | 0 | 1 => none
    | depth + 1 => if closed then (toMembers? depth members).map Json.ofMembers else none
  | broken => none

/-- The values of a list of trees. -/
def toItems? (depth : Nat) : List Draft → Option (List Json)
  | [] => some []
  | d :: rest =>
    match toJson? depth d with
    | none => none
    | some j => (toItems? depth rest).map (j :: ·)

/-- The values of a list of named trees. -/
def toMembers? (depth : Nat) : List (Option String × Draft) → Option (List (String × Json))
  | [] => some []
  | (none, _) :: _ => none
  | (some name, d) :: rest =>
    match toJson? depth d with
    | none => none
    | some j => (toMembers? depth rest).map ((name, j) :: ·)

end

end Draft

/-- Arrays and objects may be nested less deep than this. -/
def depthLimit : Nat := 128

/-- **The value that a text writes**, with blanks around it and nothing
else. -/
def ofBytes? (b : Bytes) : Option Json :=
  match Draft.read b with
  | (d, true) => d.toJson? depthLimit
  | (_, false) => none

/-- The value that a text writes. -/
def ofText? (s : String) : Option Json := ofBytes? (Bytes.ofText s)

end CourierDispatch.Json
