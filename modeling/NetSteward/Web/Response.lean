import NetSteward.Failure
/-!
# Responses

A response has a status and a body. The failures that callers are told
about are answered with their status and message, all others as an
internal error.
-/

namespace NetSteward

namespace Web

/-- The answer to a request. -/
structure Response where
  /-- A number, as whoever decided on it wrote it. -/
  status : Json
  body : Json
  /-- How to authenticate, if the caller has to. -/
  authenticate : Option String
  /-- Where to go instead. -/
  location : Option String

namespace Response

/-- A response with a body. -/
def withBody (status body : Json) : Response := ⟨status, body, none, none⟩

/-- The answer that something is as asked for. -/
def ok (body : Json) : Response := withBody (.int 200) body

/-- The answer that something was created. -/
def created (body : Json) : Response := withBody (.int 201) body

/-- The answer that there is nothing to say. -/
def noContent : Response := withBody (.int 204) .null

/-- A response that says what is wrong. -/
def detail (status : Json) (message : String) : Response :=
  withBody status (.obj [("detail", .str message)])

/-- The answer to a caller that has to authenticate. -/
def unauthenticated (message : String) : Response :=
  { detail (.int 401) message with authenticate := some "Bearer" }

/-- The answer to a request whose values did not pass. -/
def invalid (issues : List Issue) : Response :=
  withBody (.int 422) (.obj [("detail", .arr (issues.map Issue.toJson))])

/-- The answer after an internal error. -/
def internal : Response := withBody (.int 500) (.str "Internal Server Error")

/-- The answer to a path that names nothing. -/
def notFound : Response := detail (.int 404) "Not Found"

/-- The answer to a method that a path does not have. -/
def notAllowed : Response := detail (.int 405) "Method Not Allowed"

/-- The answer that sends the caller elsewhere. -/
def moved (location : String) : Response :=
  { withBody (.int 307) .null with location := some location }

/-- The answer after a failure. -/
def ofFailure (f : Failure) : Response :=
  match f.report? with
  | some (kind, message) => detail kind.httpStatus message
  | none => internal

/-- A response without its body. -/
def bare (r : Response) : Response := { r with body := .null }

end Response

end Web

end NetSteward
