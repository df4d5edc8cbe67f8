/-!
# Names of schemas

Records, enumerations and fixed-size byte strings have names, which may
stand in a dotted namespace. Within a named schema other names are read
relative to its namespace.
-/

namespace CourierDispatch.Avro

/-- **The name of a schema.** -/
structure Name where
  /-- The name within its namespace. -/
  simple : String
  /-- The namespace, if one is given; it may be given as empty. -/
  space : Option String
  deriving DecidableEq, Repr

/-- Letters and the underscore. -/
def isNameStart (c : Char) : Bool := c.isAlpha || c = '_'

/-- Letters, digits and the underscore. -/
def isNameChar (c : Char) : Bool := c.isAlphanum || c = '_'

/-- A letter or underscore followed by letters, digits and underscores. -/
def isSimpleName : List Char → Bool
  | [] => false
  | c :: rest => isNameStart c && rest.all isNameChar

/-- The parts of a text between dots, the last part first. -/
def splitDots (parts : List (List Char)) (part : List Char) : List Char → List (List Char)
  | [] => part.reverse :: parts
  | c :: rest =>
    if c = '.' then splitDots (part.reverse :: parts) [] rest
    else splitDots parts (c :: part) rest

/-- Nothing, or simple names with dots between them. -/
def isNamespace (s : String) : Bool :=
  s.isEmpty || (splitDots [] [] s.toList).all isSimpleName

namespace Name

/-- The name that a text gives: a simple name, perhaps behind a namespace
and a dot. A dot with nothing in front gives the empty namespace. -/
def ofText? (s : String) : Option Name :=
  match splitDots [] [] s.toList with
  | [] => none
  | [last] => if isSimpleName last then some ⟨String.ofList last, none⟩ else none
  | last :: first :: more =>
    let space := String.ofList (List.intercalate ['.'] (first :: more).reverse)
    if isSimpleName last && isNamespace space then some ⟨String.ofList last, some space⟩
    else none

/-- The name as it is meant inside a namespace: its own namespace if it has
one, else the enclosing one, of which an empty one counts as none. -/
def within (n : Name) (enclosing : Option String) : Name :=
  { n with space := n.space.or (enclosing.filter fun s => !s.isEmpty) }

end Name

end CourierDispatch.Avro
