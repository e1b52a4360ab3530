import UserDirectory.Unicode.Table

/-!
# Routes

The service answers the routes below, tried in this order; each has its methods and a path of
literal segments and parameters.

| methods | path | action |
|---|---|---|
| GET, HEAD | `/openapi.json`, `/docs`, `/docs/oauth2-redirect`, `/redoc` | documentation |
| POST | `/api/v1/users` | create a profile |
| GET | `/api/v1/users` | list profiles |
| GET | `/api/v1/users/me` | the caller's profile |
| PUT | `/api/v1/users/me/name` | rename the caller's profile |
| DELETE | `/api/v1/users/me` | delete the caller's profile |
| GET | `/api/v1/users/email/{email}` | a profile by email |
| GET | `/api/v1/users/{userId}` | a profile by id |
| PUT | `/api/v1/users/{userId}/name` | rename a profile |
| DELETE | `/api/v1/users/{userId}` | delete a profile |

A parameter is a non-empty piece without `/`. A path also matches when it carries one extra
newline at its very end (a parameter at the end takes the newline in). A route whose path
matches but whose methods do not is a *partial* match.

Dispatching takes the first route that matches fully. Without one, a partial match means the
method is not allowed. Without any match, a path other than `/` is changed — trailing slashes
removed, or one added when there are none — and when some route matches the changed path, fully
or partially, the client is redirected there; otherwise nothing is found.
-/

namespace UserDirectory.Web

open UserDirectory.Unicode

/-- A segment of a route's path. -/
inductive Segment where
  | literal (text : String)
  | param
  deriving DecidableEq, Repr

/-- What a route does. -/
inductive Action where
  | documentation
  | createUser
  | listUsers
  | currentUser
  | renameCurrent
  | deleteCurrent
  | userByEmail
  | userById
  | renameUser
  | deleteUser
  deriving DecidableEq, Repr

/-- A route: its methods, the segments of its path after the leading `/`, and its action. -/
structure Route where
  methods : List String
  segments : List Segment
  action : Action
  deriving Repr

def lits (path : String) : List Segment :=
  (path.splitOn "/").map Segment.literal

def routes : List Route :=
  [ ⟨["GET", "HEAD"], lits "openapi.json", .documentation⟩,
    ⟨["GET", "HEAD"], lits "docs", .documentation⟩,
    ⟨["GET", "HEAD"], lits "docs/oauth2-redirect", .documentation⟩,
    ⟨["GET", "HEAD"], lits "redoc", .documentation⟩,
    ⟨["POST"], lits "api/v1/users", .createUser⟩,
    ⟨["GET"], lits "api/v1/users", .listUsers⟩,
    ⟨["GET"], lits "api/v1/users/me", .currentUser⟩,
    ⟨["PUT"], lits "api/v1/users/me/name", .renameCurrent⟩,
    ⟨["DELETE"], lits "api/v1/users/me", .deleteCurrent⟩,
    ⟨["GET"], lits "api/v1/users/email" ++ [.param], .userByEmail⟩,
    ⟨["GET"], lits "api/v1/users" ++ [.param], .userById⟩,
    ⟨["PUT"], lits "api/v1/users" ++ [.param, .literal "name"], .renameUser⟩,
    ⟨["DELETE"], lits "api/v1/users" ++ [.param], .deleteUser⟩ ]

def bindPieces : List Segment → List (List Char) → Option (List String)
  | [], [] => some []
  | .literal t :: segs, p :: ps => if p = t.toList then bindPieces segs ps else none
  | .param :: segs, p :: ps =>
    if p.isEmpty then none else (bindPieces segs ps).map (String.ofList p :: ·)
  | _, _ => none

def bindExactly (segs : List Segment) (path : List Char) : Option (List String) :=
  match splitAt '/' path with
  | [] :: pieces => bindPieces segs pieces
  | _ => none

def bind (segs : List Segment) (path : List Char) : Option (List String) :=
  match bindExactly segs path with
  | some ps => some ps
  | none => if path.getLast? = some '\n' then bindExactly segs path.dropLast else none

/-- How a request matches a route. -/
inductive Match where
  /-- The path does not match. -/
  | miss
  /-- The path matches but the method does not. -/
  | pathOnly
  /-- Path and method match, with the path's parameters. -/
  | full (params : List String)
  deriving DecidableEq, Repr

def Route.matchOf (r : Route) (method : String) (path : List Char) : Match :=
  match bind r.segments path with
  | none => .miss
  | some ps => if r.methods.contains method then .full ps else .pathOnly

/-- Where the router sends a request. -/
inductive Dispatch where
  | serve (action : Action) (params : List String)
  | methodNotAllowed
  | redirect (path : List Char)
  | notFound
  deriving DecidableEq, Repr

def firstFull (method : String) (path : List Char) : List Route → Option (Action × List String)
  | [] => none
  | r :: rs =>
    match r.matchOf method path with
    | .full ps => some (r.action, ps)
    | _ => firstFull method path rs

def slashVariant (path : List Char) : List Char :=
  if path.getLast? = some '/' then (path.reverse.dropWhile (· = '/')).reverse else path ++ ['/']

def dispatch (method : String) (path : List Char) : Dispatch :=
  match firstFull method path routes with
  | some (a, ps) => .serve a ps
  | none =>
    if routes.any (fun r => r.matchOf method path == .pathOnly) then .methodNotAllowed
    else if path = ['/'] then .notFound
    else
      let other := slashVariant path
      if routes.any (fun r => r.matchOf method other != .miss) then .redirect other else .notFound

end UserDirectory.Web
