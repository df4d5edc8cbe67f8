import CourierDispatch.Decimal.Binary64

/-!
# The fewest digits that read back

A finite binary64 number is written with the fewest decimal digits that
still read back as the same number, and of those the nearest to it.

The reals that read back as a number form an interval around it, reaching
half way to each neighbour, ends included exactly when its significand is
even. For one digit, two digits and so on, only the two decimals next to
the number on that grid can lie in the interval nearest to it, so trying
those two for each length in turn finds the answer. Seventeen digits always
suffice.
-/

namespace CourierDispatch.Decimal

/-- **A decimal**: `digits · 10 ^ exponent`. -/
structure Scientific where
  /-- The digits, read as a number. -/
  digits : Nat
  /-- The power of ten of the last digit. -/
  exponent : Int
  deriving DecidableEq, Repr

/-- The quotient `num / den` with a power of ten taken out:
`num / den / 10 ^ e` as a fraction. -/
def shiftTen (num den : Nat) (e : Int) : Nat × Nat :=
  (num * 10 ^ (-e).toNat, den * 10 ^ e.toNat)

/-- The interval of a number: the number, its lower and its upper end, all
in quarters of one unit of `scale`, and whether the ends belong to it. The
lower neighbour of a power of two is half as far away as the upper one. -/
structure Neighbourhood where
  /-- The number itself, in quarter units. -/
  value : Nat
  /-- The lower end, in quarter units. -/
  low : Nat
  /-- The upper end, in quarter units. -/
  high : Nat
  /-- Whether the ends read back as the number too. -/
  closed : Bool
  /-- The power of two that a quarter unit counts. -/
  scale : Int

/-- The interval of the magnitude of a finite number. -/
def Neighbourhood.of (magnitude : Nat) : Neighbourhood :=
  let f := Format.binary64
  let m := f.significandOf magnitude
  let power := f.fractionOf magnitude = 0 ∧ 1 < f.exponentOf magnitude
  { value := 4 * m
    low := if power then 4 * m - 1 else 4 * m - 2
    high := 4 * m + 2
    closed := m % 2 = 0
    scale := f.scaleOf magnitude - 2 }

/-- Whether a multiple of `10 ^ e` lies in the interval. -/
def Neighbourhood.contains (n : Neighbourhood) (digits : Nat) (e : Int) : Bool :=
  -- Both sides as integers: digits · 10^e against quarters · 2^scale.
  let left := digits * 10 ^ e.toNat * 2 ^ (-n.scale).toNat
  let unit := 10 ^ (-e).toNat * 2 ^ n.scale.toNat
  if n.closed then n.low * unit ≤ left && left ≤ n.high * unit
  else n.low * unit < left && left < n.high * unit

/-- The better of the two multiples of `10 ^ e` next to the number that
lies in its interval: the nearer one, of two equally near ones the even. -/
def Neighbourhood.onGrid (n : Neighbourhood) (e : Int) : Option Nat :=
  let (num, den) := shiftTen (n.value * 2 ^ n.scale.toNat) (2 ^ (-n.scale).toNat) e
  let below := num / den
  let r := num % den
  let inBelow := n.contains below e && below ≠ 0
  let inAbove := n.contains (below + 1) e
  if inBelow && inAbove then
    some (if 2 * r < den then below
      else if den < 2 * r then below + 1
      else below + below % 2)
  else if inBelow then some below
  else if inAbove then some (below + 1)
  else none

/-- Takes trailing zeros off the digits; `fuel` bounds how many. -/
def Scientific.trim (s : Scientific) : Nat → Scientific
  | 0 => s
  | fuel + 1 =>
    if s.digits ≠ 0 ∧ s.digits % 10 = 0 then
      Scientific.trim ⟨s.digits / 10, s.exponent + 1⟩ fuel
    else s

/-- The power of ten of the first digit of `num / den`, a lower bound to be
corrected upwards at most once. -/
def leadingExponent (num den : Nat) : Int :=
  let guess : Int := (((num.log2 : Int) - (den.log2 : Int) - 1) * 30103) / 100000
  let (n, d) := shiftTen num den (guess + 1)
  if d ≤ n then guess + 1 else guess

/-- Tries one digit more at a time; `fuel` is the number of lengths left. -/
def Neighbourhood.search (n : Neighbourhood) (e : Int) : Nat → Scientific
  | 0 => ⟨0, 0⟩
  | fuel + 1 =>
    match n.onGrid e with
    | some d => Scientific.trim ⟨d, e⟩ 20
    | none => n.search (e - 1) fuel

/-- **The shortest decimal** that reads back as a finite number of this
magnitude, nearest to it among the shortest. -/
def shortest (magnitude : Nat) : Scientific :=
  if magnitude = 0 then ⟨0, 0⟩
  else
    let n := Neighbourhood.of magnitude
    let lead := leadingExponent (n.value * 2 ^ n.scale.toNat) (2 ^ (-n.scale).toNat)
    n.search (lead + 1) 20

/-! ## Layout -/

/-- **How a decimal is laid out**: which powers of ten are written out in
full, and what stands between digits and exponent otherwise. -/
structure Layout where
  /-- The point may stand at most this many places to the left of the first
  digit. -/
  leadingZeros : Nat
  /-- Numbers with at most this many digits before the point are written
  out. -/
  integerDigits : Nat
  /-- What marks the exponent. -/
  mark : String

/-- A digit string of a number. -/
def digitsOf (n : Nat) : List Char := Nat.toDigits 10 n

/-- **The text of a decimal** under a layout. A number written out in full
always shows a point. -/
def Layout.render (l : Layout) (negative : Bool) (s : Scientific) : String :=
  let ds := digitsOf s.digits
  let n := ds.length
  -- Where the point stands, counted in digits from the left.
  let point : Int := n + s.exponent
  let zeros (k : Nat) : List Char := List.replicate k '0'
  let body : List Char :=
    if s.digits = 0 then ['0', '.', '0']
    else if 0 ≤ s.exponent ∧ point ≤ l.integerDigits then
      ds ++ zeros s.exponent.toNat ++ ['.', '0']
    else if 0 < point ∧ point ≤ l.integerDigits then
      ds.take point.toNat ++ '.' :: ds.drop point.toNat
    else if -(l.leadingZeros : Int) < point ∧ point ≤ 0 then
      '0' :: '.' :: (zeros (-point).toNat ++ ds)
    else
      let mantissa := match ds with
        | [d] => [d]
        | d :: rest => d :: '.' :: rest
        | [] => []
      let e := point - 1
      mantissa ++ l.mark.toList ++ (if e < 0 then ['-'] else []) ++ digitsOf e.natAbs
  String.ofList (if negative then '-' :: body else body)

end CourierDispatch.Decimal
