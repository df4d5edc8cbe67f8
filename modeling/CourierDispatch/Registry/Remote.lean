import CourierDispatch.Registry.Basic
import CourierDispatch.Http.Exchange
import CourierDispatch.Json.Shape
import CourierDispatch.Table

/-!
# A registry behind a server

The client asks a server and remembers what it learned for good: the codec
of a number and the number of a subject and schema text. Nothing that fails
is remembered, so the next call asks again.

A schema text is compiled before it is sent, so a text that is no schema
never reaches the server; and the codec of a text that was just registered
is remembered under its number, so that it need not be fetched.
-/

namespace CourierDispatch

/-- **What a client remembers.** -/
structure RemoteRegistry where
  /-- Where the server is, without slashes at the end. -/
  baseUrl : String
  /-- The codecs by number. -/
  codecs : Table UInt32 Avro.Codec := Table.empty
  /-- The numbers by subject and schema text. -/
  ids : Table (String × String) UInt32 := Table.empty

namespace RemoteRegistry

/-- A client that has not asked anything yet. -/
def connect (baseUrl : String) : RemoteRegistry := { baseUrl := Http.trimSlashes baseUrl }

/-- The media type of registry requests. -/
def mediaType : String := "application/vnd.schemaregistry.v1+json"

/-- What stands for the reason when an answer cannot be read. -/
def unreadable : String := "error decoding response body"

/-- What a refusal says: its message, which may be missing. -/
def refusal (reply : Http.Reply) : RegistryError :=
  match Json.Record.readText? "message" reply.body with
  | .ok detail => .registry reply.status (detail.getD "")
  | .error _ => .registry reply.status unreadable

/-- The request for the schema of a number. -/
def schemaRequest (r : RemoteRegistry) (id : UInt32) : Http.Call :=
  { method := "GET"
    url := s!"{r.baseUrl}/schemas/ids/{id.toNat}"
    accept := some mediaType
    contentType := none
    body := none }

/-- The request that registers a schema text. -/
def registerRequest (r : RemoteRegistry) (subject text : String) : Http.Call :=
  { method := "POST"
    url := s!"{r.baseUrl}/subjects/{subject}/versions"
    accept := none
    contentType := some mediaType
    body := some (.object [("schema", .string text)]) }

/-- The codec in the answer to a request for a number; `none` stands for no
answer. -/
def readSchema (id : UInt32) : Option Http.Reply → Except RegistryError Avro.Codec
  | none => .error (.transport Http.noAnswer)
  | some reply =>
    if reply.status = 404 then .error (.schemaNotFound id)
    else if !reply.isSuccess then .error (refusal reply)
    else
      match Json.Record.readText "schema" reply.body with
      | .ok text =>
        match Avro.Codec.compile text with
        | .ok c => .ok c
        | .error e => .error (.schema e)
      | .error _ => .error (.transport unreadable)

/-- The number in the answer to a registration. -/
def readId : Option Http.Reply → Except RegistryError UInt32
  | none => .error (.transport Http.noAnswer)
  | some reply =>
    if !reply.isSuccess then .error (refusal reply)
    else
      match Json.Record.readWord "id" reply.body with
      | .ok id => .ok id
      | .error _ => .error (.transport unreadable)

variable {σ : Type}

/-- The codec of a number, from memory or from the server. -/
def resolve (server : Http.Server σ) (id : UInt32) :
    StateM (RemoteRegistry × σ) (Except RegistryError Avro.Codec) :=
  fun (r, s) =>
    match r.codecs.get? id with
    | some c => (.ok c, r, s)
    | none =>
      let (reply, s) := server (r.schemaRequest id) s
      match readSchema id reply with
      | .error e => (.error e, r, s)
      | .ok c => (.ok c, { r with codecs := r.codecs.putNew id c }, s)

/-- The number of a schema text under a subject, from memory or from the
server. -/
def register (server : Http.Server σ) (subject text : String) :
    StateM (RemoteRegistry × σ) (Except RegistryError UInt32) :=
  fun (r, s) =>
    match r.ids.get? (subject, text) with
    | some id => (.ok id, r, s)
    | none =>
      match Avro.Codec.compile text with
      | .error e => (.error (.schema e), r, s)
      | .ok c =>
        let (reply, s) := server (r.registerRequest subject text) s
        match readId reply with
        | .error e => (.error e, r, s)
        | .ok id =>
          (.ok id, { r with
            codecs := r.codecs.putNew id c
            ids := r.ids.put (subject, text) id }, s)

/-- The operations of a registry behind a server. -/
def operations (server : Http.Server σ) : Registry (RemoteRegistry × σ) :=
  ⟨register server, resolve server⟩

end RemoteRegistry

end CourierDispatch
