import UserDirectory.Web.Framework
import UserDirectory.Web.Query
import UserDirectory.Token.Verify

/-!
# The service

The service answers a request in this order.

1. The framework places the request (`Framework.place`): at an action with the parameters of its
   path, at an answer of its own, or nowhere after too many redirects.
2. A route that takes a body reads it first (`Framework.payload`): a malformed body is an invalid
   request, an unreadable one is refused before anything else.
3. The caller is authenticated with a test token from the bearer credentials
   (`Framework.bearer`). Missing credentials and a refused token are unauthorized; a token without
   identity is forbidden; a subject that cannot name a caller is a generic error 500.
4. Listing requires that the caller's *stored* role is `Admin`.
5. The query or body must have the expected shape: string fields `email` and `display_name` to
   create, `new_name` to rename.
6. The operation runs. A profile is answered with status 200 (201 when created), a deletion with
   204 and no body, a failure with its own status and code. The caller's own routes first look up
   the caller's profile. A fault of the store that no operation catches is a generic error 500, and
   so is a response whose body holds a surrogate standing alone: it has no UTF-8 form to send.
-/

namespace UserDirectory.Web

open UserDirectory.Json UserDirectory.Account UserDirectory.Token

variable [V : Mail.AddressValidator] [F : Framework]

/-- How a request ends for the client. -/
inductive Exchange where
  | answered (r : Response)
  | tooManyRedirects

/-- The caller of a request, or the response that refuses it. -/
def authenticate (r : Request) : Except Response Caller :=
  match Framework.bearer (r.header? "authorization") with
  | none => .error (unauthorized "Invalid or missing bearer token")
  | some token =>
    match verifyTestToken (Text.ofString token) with
    | .ok c => .ok c
    | .error .missingIdentity => .error (forbiddenResponse "Caller identity is unavailable")
    | .error (.rejected m) => .error (unauthorized (if m.isEmpty then "Invalid bearer token" else m))
    | .error (.badCaller _) => .error unexpectedError

/-- The response to the outcome of an operation on one profile. -/
def profileResponse (status : Nat) : Outcome Profile → Response
  | .ok p => ⟨status, some p.toValue⟩
  | .error f => failureResponse f

/-- The response to the outcome of a deletion. -/
def deletionResponse : Outcome Profile → Response
  | .ok _ => ⟨204, none⟩
  | .error f => failureResponse f

/-- The response to the outcome of a listing. -/
def pageResponse : Outcome Page → Response
  | .ok p => ⟨200, some p.toValue⟩
  | .error f => failureResponse f

/-- Runs a step with the request's caller. -/
def withCaller (r : Request) (k : Caller → Act Response) : Act Response :=
  match authenticate r with
  | .error resp => pure resp
  | .ok c => k c

/-- Runs a step with the request's body. -/
def withBody (r : Request) (k : Payload → Act Response) : Act Response :=
  match Framework.payload (r.header? "content-type") r.body with
  | .error .malformed => pure invalidRequest
  | .error .unreadable => pure (detailResponse 400 "There was an error parsing the body")
  | .ok p => k p

/-- Runs a step with string fields of the body, or refuses the request. -/
def withFields (p : Payload) (names : List String) (k : List Given → Act Response) :
    Act Response :=
  match p.fields names with
  | some vs => k (vs.map .text)
  | none => pure invalidRequest

/-- Runs a step with the caller's own profile. -/
def withOwnProfile (c : Caller) (k : Profile → Act Response) : Act Response := do
  match ← currentUser (some c) with
  | .error f => return failureResponse f
  | .ok me => k me

/-- Serves a request that reached an action, with the path's parameters. -/
def serveAction (r : Request) (a : Action) (params : List String) : Act Response :=
  let param := Given.ofString (params.headD "")
  match a with
  | .documentation => pure ⟨200, none⟩
  | .createUser =>
    withBody r fun p => withCaller r fun c => withFields p ["email", "display_name"] fun vs =>
      profileResponse 201 <$> createUser (vs.headD .none) (vs.getD 1 .none) (.text c.externalId)
  | .listUsers =>
    withCaller r fun c => do
      if !(← isAdmin c) then return forbiddenResponse "Administrator role required"
      match ListRequest.ofQuery? (r.query.getD []) with
      | none => return invalidRequest
      | some q => pageResponse <$> listUsers q
  | .currentUser => withCaller r fun c => profileResponse 200 <$> currentUser (some c)
  | .renameCurrent =>
    withBody r fun p => withCaller r fun c => withFields p ["new_name"] fun vs =>
      withOwnProfile c fun me =>
        profileResponse 200 <$> renameUser (Given.ofString me.id) (vs.headD .none) (some c)
  | .deleteCurrent =>
    withCaller r fun c => withOwnProfile c fun me =>
      deletionResponse <$> deleteUser (Given.ofString me.id) (some c)
  | .userByEmail => withCaller r fun c => profileResponse 200 <$> userByEmail param (some c)
  | .userById => withCaller r fun c => profileResponse 200 <$> userById param (some c)
  | .renameUser =>
    withBody r fun p => withCaller r fun c => withFields p ["new_name"] fun vs =>
      profileResponse 200 <$> renameUser param (vs.headD .none) (some c)
  | .deleteUser => withCaller r fun c => deletionResponse <$> deleteUser param (some c)

/-- Serves an action; a fault that escapes it, and a body without a UTF-8 form, are a generic
error. -/
def serve (r : Request) (a : Action) (params : List String) : Act Response := do
  match ← attempt (serveAction r a params) with
  | .ok resp => return if (resp.body.map Value.encodable).getD true then resp else unexpectedError
  | .error _ => return unexpectedError

/-- Handles a request as the client sends it, where the framework places it. -/
def exchange (r : Request) : Act Exchange :=
  match Framework.place r with
  | .serve r' a ps => Exchange.answered <$> serve r' a ps
  | .answer resp => pure (.answered resp)
  | .tooManyRedirects => pure .tooManyRedirects

end UserDirectory.Web
