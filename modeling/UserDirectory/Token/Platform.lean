import UserDirectory.Token.Verify
import UserDirectory.Account.Redact

/-!
# Provisioning the administrator on an identity platform

The identity platform is given by a *script*: the answers that its account lookups give in turn
(an exhausted script finds no account), the answer of an account creation (by default a fresh
account `uid-created` without claims) and the answer of setting claims (by default success).
Every request is logged, with its arguments as they were given.

Provisioning the administrator with an email

1. starts the platform client for the project and looks the account up;
2. creates it when the lookup finds no account, and looks it up once more when the platform says
   that the email is already taken; a created account is logged by the safe identifier of its uid
   and the masked email;
3. builds a mapping from the account's claims (`Value.toMapping`; absent claims are none) and sets
   the account's claims to it with `role` set to `admin`, unless `role` is already exactly
   `admin`; every other claim is kept, and the change is logged like a creation;
4. answers the account's uid.

Any error of the platform, a missing account on the second lookup included, becomes the failure
of the identity provider; an argument that the platform refuses outright is reported as invalid,
with the platform's message. Claims that cannot be a mapping, and a uid or an email that cannot be
logged, stop the provisioning with their own error.
-/

namespace UserDirectory.Token

open UserDirectory.Json UserDirectory.Account

/-- An account of the identity platform: its uid and its custom claims, as the platform holds
them. -/
structure Account where
  uid : Value
  claims : Value := .null

/-- The errors of the identity platform. -/
inductive PlatformError where
  | userNotFound
  | emailExists
  | unavailable
  | invalidArgument
  deriving DecidableEq, Repr

/-- Why a platform request failed. -/
inductive PlatformFault where
  /-- The platform answered with one of its errors. -/
  | platform (e : PlatformError)
  /-- The request was refused before reaching the platform. -/
  | refused (message : Text)
  /-- A value was used in a way it does not support. -/
  | misuse (m : Misuse)
  deriving DecidableEq, Repr

/-- The scripted answers of the platform. -/
structure Script where
  lookups : List (Except PlatformFault Account) := []
  create : Except PlatformFault Account := .ok { uid := .str (Text.ofString "uid-created") }
  setClaims : Except PlatformFault Unit := .ok ()

/-- The platform: what is left of its script and the requests made so far, in order. -/
structure Platform where
  script : Script
  calls : List PlatformCall := []

/-- Computations against the platform. -/
abbrev PlatformM := ExceptT PlatformFault (StateM Platform)

/-- Logs a request. -/
def request (c : PlatformCall) : PlatformM Unit :=
  modify fun p => { p with calls := p.calls ++ [c] }

/-- Looks an account up: the next scripted answer, or no account once the script is exhausted. -/
def lookupAccount (email : Value) : PlatformM Account := do
  request (.lookup email)
  let p ← get
  match p.script.lookups with
  | [] => throw (.platform .userNotFound)
  | r :: rest =>
    set { p with script := { p.script with lookups := rest } }
    liftExcept r
where
  /-- Raises a scripted failure. -/
  liftExcept {α : Type} : Except PlatformFault α → PlatformM α
    | .ok a => pure a
    | .error e => throw e

/-- Stops with a misuse. -/
def liftMisuse {α : Type} : Except Misuse α → PlatformM α
  | .ok a => pure a
  | .error m => throw (.misuse m)

/-- Logs a change to an account: the safe identifier of its uid and the masked email. -/
def logAccount (uid email : Value) : PlatformM Unit := do
  let _ ← liftMisuse (safeIdentifier uid.given (Text.ofString "uid"))
  let _ ← liftMisuse (maskEmail email.given)

/-- Creates an account. -/
def createAccount (email password displayName : Value) : PlatformM Account := do
  request (.create email password displayName true)
  lookupAccount.liftExcept (← get).script.create

/-- Replaces an account's custom claims. -/
def setAccountClaims (uid : Value) (claims : List (String × Value)) : PlatformM Unit := do
  request (.setClaims uid claims)
  lookupAccount.liftExcept (← get).script.setClaims

/-- Runs a request and answers its outcome instead of failing. -/
def tryRequest {α : Type} (x : PlatformM α) : PlatformM (Except PlatformFault α) :=
  tryCatch (x.map .ok) (fun e => pure (.error e))

/-- The account with an email, created when there is none. -/
def accountFor (email password displayName : Value) : PlatformM Account := do
  match ← tryRequest (lookupAccount email) with
  | .ok a => return a
  | .error (.platform .userNotFound) =>
    match ← tryRequest (createAccount email password displayName) with
    | .ok a =>
      logAccount a.uid email
      return a
    | .error (.platform .emailExists) => lookupAccount email
    | .error e => throw e
  | .error e => throw e

/-- Whether claims already make their account an administrator. -/
def hasAdminClaim (claims : List (String × Value)) : Bool :=
  match claims.lookup "role" with
  | some (.str r) => r == Text.ofString "admin"
  | _ => false

/-- The claims of an account as a mapping. -/
def claimsOf (a : Account) : PlatformM (List (String × Value)) :=
  match (if a.claims.truthy then a.claims else .obj []).toMapping with
  | .ok ms => pure ms
  | .error e =>
    if e.isKindError then throw (.misuse (.typeError e.message))
    else throw (.refused (Text.ofString e.message))

/-- Makes sure an administrator account exists and answers its uid. -/
def provisionAdmin (projectId : Option Text) (email password displayName : Value) :
    PlatformM Value := do
  request (.start projectId)
  let a ← accountFor email password displayName
  let claims ← claimsOf a
  if !hasAdminClaim claims then
    setAccountClaims a.uid (Value.setMember claims "role" (.str (Text.ofString "admin")))
    logAccount a.uid email
  return a.uid

/-- The fault of the identity provider for a failed platform request. -/
def PlatformFault.toFault : PlatformFault → Fault
  | .platform _ => .providerFailed (Text.ofString "Identity provider admin operation failed")
  | .refused m => .requestRefused m
  | .misuse m => .misuse m

/-- Provisions the administrator against a script: the uid or fault, and the requests made. -/
def provisionAdminOn (s : Script) (projectId : Option Text) (email password displayName : Value) :
    Except Fault Value × List PlatformCall :=
  let (r, p) := (provisionAdmin projectId email password displayName).run { script := s } |>.run
  (r.mapError PlatformFault.toFault, p.calls)

end UserDirectory.Token
