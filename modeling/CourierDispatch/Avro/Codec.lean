import CourierDispatch.Avro.Binary
import CourierDispatch.Avro.SchemaText
import CourierDispatch.Bus.WireError

/-!
# Codecs

A codec is a schema ready for use. It moves a message between its three
forms: text (JSON), native values and bytes.

A schema whose names do not all have exactly one definition compiles, but
nothing can be encoded or decoded with it.
-/

namespace CourierDispatch.Avro

/-- **A codec**: a schema and the text it was read from. -/
structure Codec where
  /-- The schema. -/
  schema : Schema
  /-- The text, exactly as it was given. -/
  text : String

namespace Codec

/-- The codec of a schema text. -/
def compile (text : String) : Except WireError Codec :=
  match Schema.ofText? text with
  | some schema => .ok ⟨schema, text⟩
  | none => .error (.invalidSchema "the text is not a schema")

/-- A codec has the text that it was made from. -/
theorem text_of_compile {text : String} {c : Codec} (h : compile text = .ok c) : c.text = text := by
  unfold compile at h
  split at h
  · rw [← Except.ok.inj h]
  · cases h

/-- The native value of a JSON value under the schema. -/
def nativeOfJson (c : Codec) (j : Json) : Except WireError Value :=
  match c.schema.names?.bind fun ns => resolve ns depthLimit c.schema (.ofJson j) with
  | some v => .ok v
  | none => .error (.encoding "the value does not fit the schema")

/-- The bytes of a native value. -/
def binaryOfNative (c : Codec) (v : Value) : Except WireError Bytes :=
  match c.schema.names?.bind fun ns => encode ns c.schema v with
  | some b => .ok b
  | none => .error (.encoding "the value is not of the schema")

/-- The bytes of a JSON value. -/
def binaryOfJson (c : Codec) (j : Json) : Except WireError Bytes := do
  c.binaryOfNative (← c.nativeOfJson j)

/-- The native value at the front of a byte string; what follows it is
ignored. -/
def nativeOfBinary (c : Codec) (b : Bytes) : Except WireError Value :=
  match c.schema.names?.bind fun ns => decode ns c.schema b with
  | some (v, _) => .ok v
  | none => .error (.decoding "the bytes do not read under the schema")

/-- The JSON value of a native value. -/
def jsonOfNative (v : Value) : Except WireError Json :=
  match v.toJson? with
  | some j => .ok j
  | none => .error (.decoding "a number in the value has no text")

/-- The JSON value at the front of a byte string. -/
def jsonOfBinary (c : Codec) (b : Bytes) : Except WireError Json := do
  jsonOfNative (← c.nativeOfBinary b)

end Codec

end CourierDispatch.Avro
