/-!
# Settings

A setting can be given by an option on the command line, by an environment
variable, or not at all; the option wins over the variable, and the variable
over the default.
-/

namespace CourierDispatch

/-- **Why settings are refused**, or not even read. -/
inductive Rejection where
  /-- An argument is no option. -/
  | unknownArgument
  /-- A value is missing or is none of the possible ones. -/
  | invalidValue
  /-- A value is no number, or a number that is too large. -/
  | valueValidation
  /-- An option is given twice. -/
  | repeated
  /-- A value is given where none belongs. -/
  | tooManyValues
  /-- Help is asked for. -/
  | helpWanted
  deriving DecidableEq, Repr

/-- **A setting** with values in `α`. -/
structure Setting (α : Type) where
  /-- The option, without the two hyphens before it. -/
  option : String
  /-- The environment variable. -/
  variableName : String
  /-- The value if none is given. -/
  fallback : α
  /-- The value that a text writes. -/
  read : String → Except Rejection α

namespace Setting

/-- Any text is a value. -/
def readText (s : String) : Except Rejection String := .ok s

/-- The truth values, in small letters. -/
def readFlag : String → Except Rejection Bool
  | "true" => .ok true
  | "false" => .ok false
  | _ => .error .invalidValue

/-- The natural numbers below a bound, in decimal digits that a plus sign may
precede. -/
def readNumber (bound : Nat) (s : String) : Except Rejection Nat :=
  let digits := match s.toList with
    | '+' :: rest => rest
    | cs => cs
  if digits.isEmpty || !digits.all Char.isDigit then .error .valueValidation
  else
    let n := digits.foldl (fun n c => 10 * n + (c.toNat - 48)) 0
    if n < bound then .ok n else .error .valueValidation

/-- The natural numbers below a bound that are read as integers first: zero
may have a minus sign. -/
def readInteger (bound : Nat) (s : String) : Except Rejection Nat :=
  match s.toList with
  | '-' :: digits =>
    if !digits.isEmpty && digits.all (· = '0') then .ok 0 else .error .valueValidation
  | _ => readNumber bound s

/-- **The value of a setting**, from the options that were given and the
environment. -/
def value {α : Type} (s : Setting α) (given environment : List (String × String)) :
    Except Rejection α :=
  match given.lookup s.option with
  | some text => s.read text
  | none =>
    match environment.lookup s.variableName with
    | some text => s.read text
    | none => .ok s.fallback

end Setting

end CourierDispatch
