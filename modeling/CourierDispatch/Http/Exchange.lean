import CourierDispatch.Json.Basic

/-!
# Asking other services

A client sees a server as a function from its request to an answer, or to no
answer at all. What the server does in between is its own state.
-/

namespace CourierDispatch.Http

/-- **A request to another service.** -/
structure Call where
  /-- The method. -/
  method : String
  /-- The address, before anything in it is escaped. -/
  url : String
  /-- The media type that is asked for. -/
  accept : Option String
  /-- The media type of the body. -/
  contentType : Option String
  /-- The body. -/
  body : Option Json

/-- **An answer.** -/
structure Reply where
  /-- The status code. -/
  status : Nat
  /-- The body, as it came. -/
  body : Bytes

/-- The status says that the request succeeded. -/
def Reply.isSuccess (r : Reply) : Bool := 200 ≤ r.status && r.status < 300

/-- **A server** with states in `σ`; `none` is no answer. -/
abbrev Server (σ : Type) := Call → σ → Option Reply × σ

/-- What stands for the reason when no answer came. -/
def noAnswer : String := "error sending request"

/-- A text without the slashes at its end. -/
def trimSlashes (s : String) : String :=
  String.ofList (s.toList.reverse.dropWhile (· = '/')).reverse

end CourierDispatch.Http
