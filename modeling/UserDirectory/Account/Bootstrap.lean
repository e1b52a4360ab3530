import UserDirectory.Account.Service
import UserDirectory.Account.Provider

/-!
# Seeding the administrator

At startup the directory makes sure its designated administrator exists. A disabled or incomplete
seed configuration (email, password and display name must all be non-blank, looked at in this
order up to the first blank one; a present value that is no text cannot be stripped) is a
deliberate skip.
Otherwise the email must be an accepted address; if a live profile has it, the identity provider
is asked to ensure the administrator identity and the state is `existing`. If not, the provider
is asked first, then an `Admin` profile is created with the provider's uid as its external id and
the stripped display name, added to the store (a clash stops the seeding), and `admin.seeded` is
reported: the state is `provisioned`.
-/

namespace UserDirectory.Account

variable [V : Mail.AddressValidator]

/-- The seed configuration. -/
structure SeedConfig where
  enabled : Bool
  email : Given := .none
  password : Given := .none
  displayName : Given := .none
  deriving DecidableEq, Repr

/-- Whether all the values are present and not blank, looking at them in order up to the first
blank one. -/
def allFilled : List Given → Except Misuse Bool
  | [] => .ok true
  | g :: gs =>
    match g.orEmpty with
    | .error k => .error (.noAttribute k "strip")
    | .ok t => if t.strip.isEmpty then .ok false else allFilled gs

/-- Whether email, password and display name are all present and not blank. -/
def SeedConfig.complete (c : SeedConfig) : Except Misuse Bool :=
  allFilled [c.email, c.password, c.displayName]

/-- How seeding ended. -/
inductive SeedState where
  | disabled
  | existing
  | provisioned
  deriving DecidableEq, Repr

/-- The text of a seed state. -/
def SeedState.text : SeedState → String
  | .disabled => "disabled"
  | .existing => "existing"
  | .provisioned => "provisioned"

/-- Seeds the administrator. -/
def seedAdmin (c : SeedConfig) : Act SeedState := do
  if !c.enabled then return .disabled
  if !(← requireUse c.complete) then return .disabled
  let email ← requireField (normalizeEmailField c.email)
  let password := if c.password.present then c.password else Given.ofString ""
  let name ← requireField (givenText c.displayName)
  let name := Given.text name.strip
  match ← liftStore (Store.getByEmail (Text.ofString email)) with
  | some _ =>
    let _ ← ensureAdmin (Given.ofString email) password name
    return .existing
  | none =>
    let ext ← ensureAdmin (Given.ofString email) password name
    let admin ← createProfile (Given.ofString email) name (Given.ofString ext) .admin
    let created ← liftStore (Store.add admin)
    notify (.mk' .adminSeeded (some created.id) .success [])
    return .provisioned

end UserDirectory.Account
