import CourierDispatch.Time.Instant
import CourierDispatch.Text.Blank

/-!
# Instants as text

Instants are written in UTC with `Z`: years from 0 to 9999 in four digits and
all others with a sign, the fraction in 0, 3, 6 or 9 digits, the fewest that
lose nothing. A leap second is written as the second after the one that it
follows, which is second 60 if it ends a minute.

Reading is more lenient. Blanks may stand before every number and before the
signs between them, days and hours need not have two digits, the letter
between date and time may be a blank, and any offset below a day is taken
into account.
-/

namespace CourierDispatch.Instant

/-! ## Writing -/

/-- A number in at least `width` digits. -/
def padded (width n : Nat) : List Char :=
  let ds := Nat.toDigits 10 n
  List.replicate (width - ds.length) '0' ++ ds

/-- A year: four digits, and a sign if four digits do not hold it. -/
def yearText (y : Int) : List Char :=
  if 0 ≤ y ∧ y ≤ 9999 then padded 4 y.toNat
  else (if y < 0 then '-' else '+') :: padded 4 y.natAbs

/-- A fraction of a second in nanoseconds. -/
def fractionText (nanos : Nat) : List Char :=
  if nanos = 0 then []
  else if nanos % 1000000 = 0 then '.' :: padded 3 (nanos / 1000000)
  else if nanos % 1000 = 0 then '.' :: padded 6 (nanos / 1000)
  else '.' :: padded 9 nanos

/-- **The text of an instant.** -/
def toText (i : Instant) : String :=
  let date := Date.ofDays (i.seconds / 86400)
  let second := (i.seconds % 86400).toNat
  let leap := if 1000000000 ≤ i.nanos then 1 else 0
  String.ofList (yearText date.year ++ '-' :: padded 2 date.month ++ '-' :: padded 2 date.day ++
    'T' :: padded 2 (second / 3600) ++ ':' :: padded 2 (second / 60 % 60) ++
    ':' :: padded 2 (second % 60 + leap) ++ fractionText (i.nanos % 1000000000) ++ ['Z'])

/-! ## Reading -/

/-- The value of a decimal digit. -/
def digit? (c : Char) : Option Nat := if c.isDigit then some (c.toNat - 48) else none

/-- At most `width` digits on top of `acc`, how many there were, and what
follows. -/
def takeDigits (acc count : Nat) : Nat → List Char → Nat × Nat × List Char
  | 0, cs => (acc, count, cs)
  | _ + 1, [] => (acc, count, [])
  | width + 1, c :: rest =>
    match digit? c with
    | some d => takeDigits (10 * acc + d) (count + 1) width rest
    | none => (acc, count, c :: rest)

/-- A number of one to `width` digits behind blanks. -/
def number? (width : Nat) (cs : List Char) : Option (Nat × List Char) :=
  let (n, count, rest) := takeDigits 0 0 width (Text.trimStart cs)
  if count = 0 then none else some (n, rest)

/-- A year: four digits at most, or a sign and any number of digits. -/
def year? (cs : List Char) : Option (Int × List Char) :=
  match Text.trimStart cs with
  | '+' :: rest => signed 1 rest
  | '-' :: rest => signed (-1) rest
  | rest => (number? 4 rest).map fun (n, rest) => ((n : Int), rest)
where
  /-- The digits behind a sign, without a blank between. -/
  signed (sign : Int) (cs : List Char) : Option (Int × List Char) :=
    let (n, count, rest) := takeDigits 0 0 cs.length cs
    if count = 0 then none else some (sign * n, rest)

/-- What follows a sign that may stand behind blanks. -/
def after? (c : Char) (cs : List Char) : Option (List Char) :=
  match Text.trimStart cs with
  | d :: rest => if d = c then some rest else none
  | [] => none

/-- A fraction: at least one digit behind a point, of which nine count. -/
def fraction? (cs : List Char) : Option (Nat × List Char) :=
  match cs with
  | '.' :: rest =>
    let (n, count, rest) := takeDigits 0 0 9 rest
    if count = 0 then none
    else some (n * 10 ^ (9 - count), rest.dropWhile Char.isDigit)
  | rest => some (0, rest)

/-- The offset from UTC in minutes: `Z`, `UTC`, or a sign, two digits for
the hours, blanks or colons, and two digits for the minutes. -/
def offset? (cs : List Char) : Option (Int × List Char) :=
  if (cs.take 3).map Char.toUpper = ['U', 'T', 'C'] then some (0, cs.drop 3)
  else
    match cs with
    | 'Z' :: rest => some (0, rest)
    | 'z' :: rest => some (0, rest)
    | '+' :: rest => hours 1 rest
    | '-' :: rest => hours (-1) rest
    | '\u2212' :: rest => hours (-1) rest
    | _ => none
where
  /-- The digits behind a sign. -/
  hours (sign : Int) : List Char → Option (Int × List Char)
    | a :: b :: rest =>
      match digit? a, digit? b, rest.dropWhile fun c => c = ':' || Text.isBlank c with
      | some a, some b, c :: d :: rest =>
        match digit? c, digit? d with
        | some c, some d =>
          let hour := 10 * a + b
          if c < 6 ∧ hour < 24 then some (sign * (60 * hour + 10 * c + d : Nat), rest)
          else none
        | _, _ => none
      | _, _, _ => none
    | _ => none

/-- **The instant that a text writes.** The date must exist, and the instant
must lie in the range also where its offset moves it to another day. -/
def parse? (s : String) : Option Instant := do
  let (year, cs) ← year? s.toList
  let cs ← after? '-' cs
  let (month, cs) ← number? 2 cs
  let cs ← after? '-' cs
  let (day, cs) ← number? 2 cs
  let cs ← match cs with
    | 'T' :: rest => some rest
    | 't' :: rest => some rest
    | ' ' :: rest => some rest
    | _ => none
  let (hour, cs) ← number? 2 cs
  let cs ← after? ':' cs
  let (minute, cs) ← number? 2 cs
  let cs ← after? ':' cs
  let (second, cs) ← number? 2 cs
  let (fraction, cs) ← fraction? cs
  let (offset, cs) ← offset? (Text.trimStart cs)
  let date : Date := ⟨year, month, day⟩
  if !(Text.trimStart cs).isEmpty || !date.isValid || 24 ≤ hour || 60 ≤ minute || 61 ≤ second then
    none
  else
    let (second, nanos) := if second = 60 then (59, 1000000000 + fraction) else (second, fraction)
    let localSeconds := date.toDays * 86400 + (3600 * hour + 60 * minute + second : Nat)
    let here ← ofParts? localSeconds nanos
    ofParts? (here.seconds - 60 * offset) here.nanos

end CourierDispatch.Instant
