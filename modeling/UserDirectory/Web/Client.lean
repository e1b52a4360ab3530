import UserDirectory.Web.Framework
import UserDirectory.Web.Target

/-!
# The router and the test client

How the framework that the service runs with places a request. The router matches the decoded
path against the route table (`dispatch`); a redirect is followed, at most twenty times, with the
same method, headers, query and body. The redirect goes to the scheme of the request, the host
that its `Host` header names (the request's own host when that names none) and the new path; when
that is another origin, the client drops the `Authorization` header and names the new host. An
absolute target with user information carries basic credentials in place of the request's own
`Authorization` header.
-/

namespace UserDirectory.Web

def placeWithin : Nat → Request → Placement
  | fuel, r =>
    let sent := clientTarget r.target.toList
    let query := r.query.getD ((sent.query.map queryItems).getD [])
    let routed := routedPath sent.path
    match dispatch r.method routed with
    | .serve a ps => .serve { r with query := some query } a ps
    | .methodNotAllowed => .answer (detailResponse 405 "Method Not Allowed")
    | .notFound => .answer (detailResponse 404 "Not Found")
    | .redirect p =>
      match fuel with
      | 0 => .tooManyRedirects
      | n + 1 =>
        let host := (r.header? "host").getD (String.ofList sent.origin.netloc)
        let location := String.ofList (fillHost sent.origin.host
          (sent.origin.scheme ++ "://".toList ++ host.toList ++ p))
        let next := (clientTarget location.toList).origin
        let headers := if next = sent.origin then r.headers
          else setHeader (dropHeader r.headers "authorization") "Host" (String.ofList next.netloc)
        placeWithin n { r with target := location, query := some query, headers }

def redirectLimit : Nat := 20

/-- Places a request as the client sends it. User information in an absolute target makes the
client send basic credentials in place of any `Authorization` header, on the first request and
on every redirect that keeps them. -/
def clientPlacement (r : Request) : Placement :=
  match (clientTarget r.target.toList).credentials with
  | some (user, password) =>
    placeWithin redirectLimit
      { r with headers := setHeader r.headers "Authorization" (basicAuthorization user password) }
  | none => placeWithin redirectLimit r

end UserDirectory.Web
