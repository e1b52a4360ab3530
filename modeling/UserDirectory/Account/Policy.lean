import UserDirectory.Account.Field
import UserDirectory.Account.Failure
import UserDirectory.Account.World

/-!
# Callers and ownership

A caller is the identity behind a request: the identity provider's subject and the role that its
token claims. The claim is never trusted: every decision looks up the caller's own live profile
(by the normalized external id) and uses the role stored there.

A caller may act on a profile when its stored role is `Admin` or the profile is its own: the
target, as given, is the text of the profile's id. A decision only ever reads the caller's
profile, never the target's, so a denial says nothing about whether the target exists.
-/

namespace UserDirectory.Account

/-- The identity behind a request. -/
structure Caller where
  externalId : Text
  claimedRole : Role := .user
  deriving DecidableEq, Repr

/-- The caller with an external id and a claimed role (`callerId`). -/
def Caller.make (externalId : Given) (claimedRole : Role) : Except CallerIdError Caller :=
  (callerId externalId).map fun externalId => { externalId, claimedRole }

/-- An authorization decision. -/
inductive Decision where
  | allow
  | deny
  deriving DecidableEq, Repr

/-- The text of a decision. -/
def Decision.text : Decision → String
  | .allow => "allow"
  | .deny => "deny"

/-- The live profile of an identity-provider subject. -/
def resolve (ext : Given) : Act (Outcome Profile) := do
  match normalizeExternalId ext with
  | .error e => if e.refuses then pure (.error (.validation e.message)) else throw e.toFault
  | .ok subject =>
    match ← liftStore (Store.getByExternalId subject) with
    | none => pure (.error .notFound)
    | some p => pure (.ok p)

/-- Allows the owner of the target: the resolved profile has the target's id. -/
def ownership (resolved : Outcome Profile) (target : Given) : Decision :=
  match resolved with
  | .ok p => if Given.ofString p.id = target then .allow else .deny
  | .error _ => .deny

/-- The stored role of a resolved caller, if it resolved. -/
def storedRole (resolved : Outcome Profile) : Option Role :=
  match resolved with
  | .ok p => some p.role
  | .error _ => none

/-- Decides with a stored role the caller already knows. -/
def authorize (ext : Given) (known : Option Role) (target : Given) : Act Decision := do
  if known = some .admin then return .allow
  let r ← resolve ext
  return ownership r target

/-- Decides for a request's caller, looking up its stored role once. -/
def authorizeCaller (c : Caller) (target : Given) : Act Decision := do
  let r ← resolve (.text c.externalId)
  if storedRole r = some .admin then return .allow
  return ownership r target

/-- Whether the caller's stored role is `Admin`. -/
def isAdmin (c : Caller) : Act Bool := do
  let r ← resolve (.text c.externalId)
  return storedRole r == some .admin

end UserDirectory.Account
