import UserDirectory.Web.Route
import UserDirectory.Web.Request
import UserDirectory.Web.Response

/-!
# The web framework

The service's handlers run inside a web framework and are reached through its test client. The
framework decides where a request that the client sends ends up: at one of the service's actions,
with the parameters of its path and the request as it arrives there; at an answer of the
framework's own, when no route takes the path or the route does not take the method; or nowhere,
when the client gives up after too many redirects. It also reads a request's body and the bearer
credentials of its `Authorization` header.

These are parameters. The service's own code depends on a request only through them and through
the request's headers, query and body; the framework the service runs with is given in
`UserDirectory.Session.Runtime`.
-/

namespace UserDirectory.Web

/-- Where a request that a client sends ends up. -/
inductive Placement where
  /-- at an action, with the parameters of its path and the request as it arrives -/
  | serve (r : Request) (a : Action) (params : List String)
  /-- at an answer of the framework's own -/
  | answer (resp : Response)
  | tooManyRedirects

/-- A web framework and its test client. -/
class Framework where
  place : Request → Placement
  /-- the body, from the `Content-Type` header and the body's text -/
  payload : Option String → String → Except BodyError Payload
  /-- the bearer credentials of an `Authorization` header -/
  bearer : Option String → Option String

end UserDirectory.Web
