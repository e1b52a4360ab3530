import UserDirectory.Token.Claims
import UserDirectory.Json.Mapping

/-!
# Verifying bearer tokens

Two verifiers turn a bearer token into a caller.

* A *test token* is `test:<subject>` or `test:<subject>:<role>`: split at every colon it must give
  two or three pieces, the first `test`. The subject is the second piece stripped; an empty one
  means no identity. The role is the one that the third piece, stripped, names. Such a token stands
  for the claims `testClaims`.
* A *platform token* is checked by the identity platform, which either refuses it or answers its
  claims, as a mapping built from what it holds (`Value.toMapping`, an absent value being no
  claims); claims that cannot be a mapping refuse the token as well. When an audience is configured (not empty) the claim `aud` must be exactly that text;
  when a project is configured, the project must occur in the text of the claim `iss` (empty when
  it is missing) or equal the text of `aud`. The accepted claims are then normalized.

Verifying a platform token first starts the platform client for the project, then asks it to verify
the token with revocation checks; both requests are logged.
-/

namespace UserDirectory.Token

open UserDirectory.Json UserDirectory.Account UserDirectory.Text UserDirectory.Unicode

/-- The caller named by a test token. -/
def verifyTestToken (token : Text) : Except TokenError Caller :=
  match token.splitOn ':' with
  | [tag, subject] => fromPieces tag subject none
  | [tag, subject, role] => fromPieces tag subject (some role)
  | _ => .error (.rejected "Invalid bearer token")
where
  /-- A caller from the pieces of a well-shaped test token. -/
  fromPieces (tag subject : Text) (role : Option Text) : Except TokenError Caller :=
    if tag ≠ Text.ofString "test" then .error (.rejected "Invalid bearer token")
    else
      let ext := subject.strip
      if ext.isEmpty then .error .missingIdentity
      else callerFor ext (Role.ofClaim (role.getD Text.empty).strip)

/-- The claims a well-shaped test token stands for: its subject piece as `sub` and, when it has a
third piece, that piece as `role`. -/
def testClaims (subject : Text) (role : Option Text) : Value :=
  .obj (("sub", .str subject) :: (role.map fun r => ("role", Value.str r)).toList)

/-- Where platform tokens are expected to come from. -/
structure PlatformConfig where
  projectId : Option Text := none
  audience : Option Text := none
  deriving DecidableEq, Repr

/-- A request to the identity platform. -/
inductive PlatformCall where
  /-- Start the platform client for a project. -/
  | start (projectId : Option Text)
  /-- Verify a token. -/
  | verify (token : Text) (checkRevoked : Bool)
  /-- Look an account up by email. -/
  | lookup (email : Value)
  /-- Create an account. -/
  | create (email password displayName : Value) (emailVerified : Bool)
  /-- Replace an account's custom claims. -/
  | setClaims (uid : Value) (claims : List (String × Value))

/-- The text of a claim as the checks compare it: empty when missing. -/
def checkedText (claims : Value) (key : String) : Text :=
  match claims.get? key with
  | none => Text.empty
  | some v => v.display

/-- Whether the claims are for the configured audience. -/
def audienceHolds (cfg : PlatformConfig) (claims : Value) : Bool :=
  match cfg.audience with
  | some a => a.isEmpty || (claims.get? "aud").bind Value.str? == some a
  | none => true

/-- Whether the claims were issued for the configured project. -/
def issuerHolds (cfg : PlatformConfig) (claims : Value) : Bool :=
  match cfg.projectId with
  | some p =>
    p.isEmpty || p.isInfixOf (checkedText claims "iss") || checkedText claims "aud" == p
  | none => true

/-- The caller of a platform token, given the platform's answer: a refusal or the claims. -/
def checkPlatformClaims (cfg : PlatformConfig) (answer : Except Text Value) :
    Except TokenError Caller :=
  match answer with
  | .error _ => .error (.rejected "Invalid bearer token")
  | .ok claims =>
    if !audienceHolds cfg claims then .error (.rejected "Invalid bearer token audience")
    else if !issuerHolds cfg claims then .error (.rejected "Invalid bearer token issuer")
    else normalizeClaims claims

/-- The platform's answer for a token: refused, or the mapping built from the claims it holds. -/
def platformAnswer (refusal : Option Text) (claims : Value) : Except Text Value :=
  match refusal with
  | some m => .error m
  | none =>
    match (if claims.truthy then claims else .obj []).toMapping with
    | .ok ms => .ok (.obj ms)
    | .error e => .error (Text.ofString e.message)

/-- Verifies a platform token: the caller and the requests made to the platform. -/
def verifyPlatformToken (cfg : PlatformConfig) (token : Text) (answer : Except Text Value) :
    Except TokenError Caller × List PlatformCall :=
  (checkPlatformClaims cfg answer, [.start cfg.projectId, .verify token true])

end UserDirectory.Token
