import CourierDispatch.Avro.Codec

/-!
# Schema registries

A registry gives numbers to schemas and schemas to numbers. Writers register
their schema under a subject and put its number on every message; readers
look the number up. Registered schemas never change.

`Registry σ` is what the rest of the library knows of one: two operations on
a state `σ`. There are two implementations, one within the process and one
that asks a server and remembers its answers.
-/

namespace CourierDispatch

/-- **Why a registry gives no answer.** -/
inductive RegistryError where
  /-- No schema has the number. -/
  | schemaNotFound (id : UInt32)
  /-- The server could not be asked, or its answer could not be read. -/
  | transport (reason : String)
  /-- The server refused. -/
  | registry (status : Nat) (detail : String)
  /-- The text is no schema. -/
  | schema (e : WireError)
  deriving DecidableEq

/-- The wording of an error. -/
def RegistryError.message : RegistryError → String
  | schemaNotFound id => s!"schema {id.toNat} is not registered"
  | transport reason => "schema registry request failed: " ++ reason
  | registry status detail => s!"schema registry returned {status}: {detail}"
  | schema e => e.message

/-- **A schema registry** with states in `σ`. -/
structure Registry (σ : Type) where
  /-- The number of a schema text under a subject; the text is registered
  unless it already is. -/
  register (subject text : String) : StateM σ (Except RegistryError UInt32)
  /-- The codec of a number. -/
  resolve (id : UInt32) : StateM σ (Except RegistryError Avro.Codec)

namespace Registry

/-- **What a registry is asked for.** -/
inductive Query where
  /-- The codec of a number. -/
  | resolve (id : UInt32)
  /-- The number of a schema text under a subject. -/
  | register (subject text : String)
  deriving DecidableEq

/-- What answers a query: what was asked for, or why there is none. -/
abbrev Query.Answer : Query → Type
  | .resolve _ => Except RegistryError Avro.Codec
  | .register _ _ => Except RegistryError UInt32

/-- Answers a query. -/
def ask {σ : Type} (r : Registry σ) : (q : Query) → σ → q.Answer × σ
  | .resolve id => r.resolve id
  | .register subject text => r.register subject text

end Registry

/-- **A registry that fails**: every registration with one error, if one is
given, and the look-ups of some numbers. -/
def Registry.failing {σ : Type} (r : Registry σ) (onRegister : Option RegistryError)
    (onResolve : UInt32 → Option RegistryError) : Registry σ where
  register subject text :=
    match onRegister with
    | some e => pure (.error e)
    | none => r.register subject text
  resolve id :=
    match onResolve id with
    | some e => pure (.error e)
    | none => r.resolve id

end CourierDispatch
