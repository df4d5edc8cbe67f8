import CourierDispatch.Http.Message
import CourierDispatch.Http.Path

/-!
# Routers

A router knows the routes of a service: which paths there are and which
method each of them offers. It answers by itself where no route matches,
where the method is not offered, and where a browser asks in advance what it
may do; and it lets pages of any origin read every answer.
-/

namespace CourierDispatch.Http

/-- The methods that routes offer. -/
inductive Verb where
  /-- Reads; the header alone may be asked for as well. -/
  | get
  /-- Writes. -/
  | post
  deriving DecidableEq, Repr

namespace Verb

/-- The methods that a request may name, as the answer to a wrong one lists
them. -/
def allowed : Verb → String
  | get => "GET,HEAD"
  | post => "POST"

/-- Whether a method is among them. -/
def admits : Verb → String → Bool
  | get, method => method = "GET" || method = "HEAD"
  | post, method => method = "POST"

end Verb

/-- One segment of the paths of a route. -/
inductive Segment where
  /-- This word. -/
  | word (w : String)
  /-- Any word; it is a parameter. -/
  | parameter

/-- **A route** to an endpoint in `ε`. -/
structure Route (ε : Type) where
  /-- The paths. -/
  path : List Segment
  /-- The method that is offered. -/
  verb : Verb
  /-- What is reached. -/
  endpoint : ε

/-- The parameters of a path that a pattern matches. -/
def matchPath? : List Segment → List String → Option (List String)
  | [], [] => some []
  | .word w :: ps, s :: ss => if s = w then matchPath? ps ss else none
  | .parameter :: ps, s :: ss => if s = "" then none else (matchPath? ps ss).map (s :: ·)
  | _, _ => none

/-- The first route that matches a path, with the parameters. -/
def findRoute? {ε : Type} (routes : List (Route ε)) (path : String) :
    Option (Route ε × List String) :=
  (segments? path).bind fun ss =>
    routes.findSome? fun r => (matchPath? r.path ss).map fun params => (r, params)

/-- The answer with the fields that let pages of any origin read it. -/
def Response.shared (r : Response) : Response :=
  { r with fields := r.fields ++
      [("access-control-allow-origin", "*"),
       ("vary", "origin, access-control-request-method, access-control-request-headers")] }

/-- The answer to a browser that asks in advance what it may do. -/
def preflight {ε : Type} (route : Option (Route ε × List String)) : Response :=
  let allow := match route with
    | some (r, _) => [("allow", r.verb.allowed)]
    | none => []
  { status := 200
    fields := allow ++
      [("access-control-allow-methods", "*"), ("access-control-allow-headers", "*")] }

/-- **Answers a request** by the routes of a service and by what its
endpoints do with the parameters. -/
def respond {ε : Type} {m : Type → Type} [Monad m] (routes : List (Route ε))
    (act : ε → List String → Request → m Response) (req : Request) : m Response :=
  let found := findRoute? routes req.path
  if req.method = "OPTIONS" then pure (preflight found).shared
  else
    match found with
    | none => pure (Response.shared { status := 404 })
    | some (r, params) =>
      if r.verb.admits req.method then do
        let answer ← act r.endpoint params req
        pure { answer.shared with bodySent := req.method ≠ "HEAD" }
      else pure (Response.shared { status := 405, fields := [("allow", r.verb.allowed)] })

/-- The answer of a service that is well. -/
def healthy : Response := .text 200 "OK"

/-- What an endpoint does with the identifier in its only parameter. -/
def withUuid {m : Type → Type} [Monad m] (params : List String) (act : Uuid → m Response) :
    m Response :=
  match params with
  | [segment] =>
    match uuidOfSegment? segment with
    | some id => act id
    | none => pure (.text 400 "Invalid URL")
  | _ => pure (.text 400 "Invalid URL")

end CourierDispatch.Http
