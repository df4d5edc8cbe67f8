/-!
# Media types

A request says in what language its body is written: a type, a subtype that
may end in a plus sign and a suffix, and parameters. A body is JSON if the
subtype is `json` or the suffix is.
-/

namespace CourierDispatch.Http

/-- **A media type** without its parameters, in lower case. -/
structure MediaType where
  /-- The type. -/
  type : String
  /-- The subtype, up to its last plus sign. -/
  subtype : String
  /-- What follows the last plus sign. -/
  suffix : Option String
  deriving DecidableEq, Repr

namespace MediaType

/-- The characters of names and of values without quotes. -/
def isToken (c : Char) : Bool := c.isAlphanum || "!#$%&'*+-.^_`|~".toList.contains c

/-- The characters between quotes. -/
def isQuotable (c : Char) : Bool :=
  c = '\t' || (32 ≤ c.toNat && c ≠ '"' && c.toNat ≠ 127)

/-- What is due in the parameters. -/
inductive Due where
  /-- A parameter, or blanks before one. -/
  | parameter
  /-- The rest of a name. -/
  | name
  /-- A value. -/
  | value
  /-- The rest of a value without quotes. -/
  | token
  /-- The first character between quotes, or the next one. -/
  | quoted (first : Bool)
  /-- A semicolon, or blanks before one. -/
  | semicolon

/-- Whether a text is a list of parameters. -/
def areParameters : Due → List Char → Bool
  | .parameter, [] => true
  | .name, [] => false
  | .value, [] => true
  | .token, [] => true
  | .quoted _, [] => false
  | .semicolon, [] => true
  | .parameter, c :: rest =>
    if c = ' ' then areParameters .parameter rest
    else isToken c && areParameters .name rest
  | .name, c :: rest =>
    if c = '=' then areParameters .value rest
    else isToken c && areParameters .name rest
  | .value, c :: rest =>
    if c = '"' then areParameters (.quoted true) rest
    else isToken c && areParameters .token rest
  | .token, c :: rest =>
    if c = ';' then areParameters .parameter rest
    else isToken c && areParameters .token rest
  | .quoted first, c :: rest =>
    if c = '"' && !first then areParameters .semicolon rest
    else isQuotable c && areParameters (.quoted false) rest
  | .semicolon, c :: rest =>
    if c = ';' then areParameters .parameter rest
    else c = ' ' && areParameters .semicolon rest

/-- What stands before and after the last plus sign that has something
before it. -/
def splitSuffix (cs : List Char) : List Char × Option (List Char) :=
  let tail := cs.reverse.takeWhile (· ≠ '+')
  let head := (cs.reverse.drop (tail.length + 1)).reverse
  if head.isEmpty then (cs, none) else (head, some tail.reverse)

/-- **The media type that a text writes**, if it writes one. -/
def parse? (s : String) : Option MediaType :=
  let cs := s.toList.map Char.toLower
  let type := cs.takeWhile isToken
  match cs.dropWhile isToken with
  | '/' :: rest =>
    let sub := rest.takeWhile isToken
    let parametersFit :=
      match rest.dropWhile isToken with
      | [] => true
      | c :: more => (c = ';' || c = ' ') && areParameters .parameter more
    if type.isEmpty || sub.isEmpty || !parametersFit then none
    else
      let (subtype, suffix) := splitSuffix sub
      some ⟨String.ofList type, String.ofList subtype, suffix.map String.ofList⟩
  | _ => none

/-- The media type is one of JSON. -/
def isJson (m : MediaType) : Bool :=
  m.type = "application" && (m.subtype = "json" || m.suffix = some "json")

end MediaType

end CourierDispatch.Http
