import UserDirectory.Json.Show
import UserDirectory.Account.Policy

/-!
# Identity claims

A verified token carries claims, a JSON object. They become a caller in one way for every kind of
token:

* the *subject* is the first of the claims `sub`, `uid` and `user_id` whose text, stripped, is
  not empty (a claim that counts as absent has the empty text); without one the token has no
  identity;
* the *role claim* is the first of `role` and `roles` that counts as present. A list names
  `Admin` when one of its items does; any other value names the role its text names; no role
  claim names `User`.

The subject must be able to name a caller (`callerId`): a subject with a surrogate cannot. The role
found here is only what the token claims: decisions use the stored role.
-/

namespace UserDirectory.Token

open UserDirectory.Json UserDirectory.Account UserDirectory.Text

/-- Why a token gives no caller. -/
inductive TokenError where
  /-- The token was refused, with the reason given to the client. -/
  | rejected (message : String)
  /-- The token was accepted but names no subject. -/
  | missingIdentity
  /-- The subject cannot be the external id of a caller. -/
  | badCaller (e : CallerIdError)
  deriving DecidableEq, Repr

/-- The message of a token error. -/
def TokenError.message : TokenError → String
  | .rejected m => m
  | .missingIdentity => "Bearer token missing user identity"
  | .badCaller e => e.message

/-- The claims that may name the subject, in order. -/
def subjectClaims : List String := ["sub", "uid", "user_id"]

/-- The claims that may name the role, in order. -/
def roleClaims : List String := ["role", "roles"]

/-- The stripped text of a claim; empty when it is missing or counts as absent. -/
def claimText (claims : Value) (key : String) : Text :=
  (claims.getD key).displayOrEmpty.strip

/-- The subject of a set of claims, empty when none names one. -/
def subjectOf (claims : Value) : Text :=
  ((subjectClaims.map (claimText claims)).find? (!·.isEmpty)).getD Text.empty

/-- The first role claim that counts as present. -/
def roleClaim? (claims : Value) : Option Value :=
  (roleClaims.map claims.getD).find? Value.truthy

/-- The role a role claim names. -/
def roleOfClaim : Option Value → Role
  | some (.arr items) =>
    if items.any (fun v => Role.ofClaim v.display == .admin) then .admin else .user
  | some v => Role.ofClaim v.display
  | none => .user

/-- The caller with a subject and a role. -/
def callerFor (subject : Text) (role : Role) : Except TokenError Caller :=
  (Caller.make (.text subject) role).mapError .badCaller

/-- The caller that a set of claims describes. -/
def normalizeClaims (claims : Value) : Except TokenError Caller :=
  let subject := subjectOf claims
  if subject.isEmpty then .error .missingIdentity
  else callerFor subject (roleOfClaim (roleClaim? claims))

end UserDirectory.Token
