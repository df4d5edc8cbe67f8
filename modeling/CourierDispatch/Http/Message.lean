import CourierDispatch.Http.MediaType
import CourierDispatch.Json.Shape
import CourierDispatch.ServiceError

/-!
# Requests and answers

What a service is asked over HTTP and what it answers. A body is JSON, plain
text or nothing. Whatever goes wrong inside a service is told to the outside
only as far as it is the caller's business.
-/

namespace CourierDispatch.Http

/-- **A request.** -/
structure Request where
  /-- The method. -/
  method : String
  /-- The path, which a query may follow. -/
  path : String
  /-- The media type of the body, if the request gives one. -/
  contentType : Option String
  /-- The body. -/
  body : Bytes

/-- **What an answer holds.** -/
inductive Body where
  /-- Nothing. -/
  | empty
  /-- A JSON value. -/
  | json (j : Json)
  /-- Plain text. -/
  | text (s : String)

/-- **An answer.** -/
structure Response where
  /-- The status code. -/
  status : Nat
  /-- The header fields besides the media type of the body. -/
  fields : List (String × String) := []
  /-- The body. -/
  body : Body := .empty
  /-- Whether the body is sent, or only announced by its media type. -/
  bodySent : Bool := true

namespace Response

/-- An answer that is JSON. -/
def json (status : Nat) (j : Json) : Response := { status, body := .json j }

/-- An answer that is plain text. -/
def text (status : Nat) (s : String) : Response := { status, body := .text s }

/-- The media type of the body. -/
def contentType? (r : Response) : Option String :=
  match r.body with
  | .empty => none
  | .json _ => some "application/json"
  | .text _ => some "text/plain; charset=utf-8"

/-- All header fields. -/
def allFields (r : Response) : List (String × String) :=
  match r.contentType? with
  | none => r.fields
  | some t => ("content-type", t) :: r.fields

/-- An answer that says what is wrong. -/
def error (status : Nat) (reason : String) : Response :=
  json status (.object [("error", .string reason)])

/-- **What a failure looks like from outside**: the caller's own mistakes in
full, anything else as an internal error without details. -/
def ofError : ServiceError → Response
  | .validation reason => error 400 reason
  | e@(.notFound _ _) => error 404 e.message
  | _ => error 500 "internal server error"

end Response

namespace Request

/-- Whether the body is said to be JSON. -/
def hasJson (r : Request) : Bool :=
  match r.contentType.bind MediaType.parse? with
  | some m => m.isJson
  | none => false

/-- **What a JSON body holds**, by a reader of its shape, or the answer that
refuses it. -/
def read {α : Type} (r : Request) (shape : Bytes → Except Json.Fault α) : Except Response α :=
  if !r.hasJson then
    .error (.text 415 "Expected request with `Content-Type: application/json`")
  else
    match shape r.body with
    | .ok a => .ok a
    | .error .notJson => .error (.text 400 "Failed to parse the request body as JSON")
    | .error .wrongShape =>
      .error (.text 422 "Failed to deserialize the JSON body into the target type")

end Request

end CourierDispatch.Http
