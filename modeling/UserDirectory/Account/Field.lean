import UserDirectory.Text.Given
import UserDirectory.Ident.Uuid
import UserDirectory.Mail.Validator

/-!
# Profile fields

The rules for the fields of a user profile, each applied to the stripped text (text may hold
surrogates standing alone; see `UserDirectory.Text`):

* a user id must be present and write an identifier, and is kept in canonical form;
* an email must be present and an accepted address, and is kept normalized and lower-cased;
* a display name must be present and at most 200 code points;
* an external id (the identity provider's subject) must be present and at most 128 code points.

A user id or an email with a surrogate in it is malformed; display names and external ids keep
their surrogates.

The rules take their value as given (`UserDirectory.Given`). A user id is read as the display of
the value, so a number is an id that does not parse. The other fields are read as texts: an
absent value is the empty text, and a present value that is no text cannot be stripped at all,
which is no refusal but a misuse (`FieldError.notText`).

A role is `User` or `Admin`; a role claim names the administrator role when, stripped and
lower-cased, it reads `admin`. Any other claim, and no claim, is a plain user. A role named
outright must be one of the two names, spelled exactly.

An external id names a caller only when it is a text with at least one code point and no
surrogate.
-/

namespace UserDirectory.Account

open UserDirectory.Text UserDirectory.Unicode UserDirectory.Ident UserDirectory.Mail

/-- The role of a user. -/
inductive Role where
  | user
  | admin
  deriving DecidableEq, Repr

namespace Role

/-- The name of a role. -/
def name : Role → String
  | user => "User"
  | admin => "Admin"

/-- The role that a role claim names. -/
def ofClaim (claim : Text) : Role :=
  if claim.strip.lower = Text.ofString "admin" then admin else user

theorem ofClaim_strip (t : Text) : ofClaim t.strip = ofClaim t := by
  simp [ofClaim]

theorem ofClaim_empty : ofClaim Text.empty = user := by
  decide

/-- The role of a given claim: an absent claim is a plain user; a present claim that is no text
cannot be stripped, and the name of its kind is returned. -/
def ofGiven : Given → Except String Role
  | .text t => .ok (ofClaim t)
  | g => if g.present then .error g.kind else .ok user

/-- The role with a name, spelled exactly; otherwise the message that refuses the name. -/
def named (g : Given) : Except String Role :=
  if g = Given.ofString "User" then .ok user
  else if g = Given.ofString "Admin" then .ok admin
  else .error (g.literal ++ " is not a valid Role")

end Role

/-- Why a field value is refused. -/
inductive FieldError where
  | idMissing
  | idMalformed
  | emailMissing
  | emailMalformed
  | nameMissing
  | nameTooLong
  | externalIdMissing
  | externalIdTooLong
  /-- a present value that is no text, by the name of its kind: it has no `strip` -/
  | notText (kind : String)
  deriving DecidableEq, Repr

/-- The longest display name, in characters. -/
def displayNameLimit : Nat := 200

/-- The longest external id, in characters. -/
def externalIdLimit : Nat := 128

/-- The message of a refused field. -/
def FieldError.message : FieldError → String
  | .idMissing => "User id is required"
  | .idMalformed => "User id is not a valid identifier"
  | .emailMissing => "Email is required"
  | .emailMalformed => "Email is not a valid address"
  | .nameMissing => "Display name is required"
  | .nameTooLong => "Display name must be at most 200 characters"
  | .externalIdMissing => "External auth id is required"
  | .externalIdTooLong => "External auth id must be at most 128 characters"
  | .notText k => (Misuse.noAttribute k "strip").message

/-- Whether a field error refuses a value, rather than meeting a value that is no text. -/
def FieldError.refuses : FieldError → Bool
  | .notText _ => false
  | _ => true

/-- The text of a value for a rule that strips it. -/
def givenText (g : Given) : Except FieldError Text :=
  g.orEmpty.mapError .notText

/-- The canonical text of a user id; the value is read as its display. -/
def parseUserId (g : Given) : Except FieldError String :=
  let text := g.shownOrEmpty.strip
  if text.isEmpty then .error .idMissing
  else
    match Uuid.ofText text with
    | .ok u => .ok u.text
    | .error _ => .error .idMalformed

section Email

variable [V : AddressValidator]

/-- The stored form of an email; a surrogate is never blank and never part of an address. -/
def normalizeEmailField (g : Given) : Except FieldError String := do
  let s ← givenText g
  match s.toString? with
  | none => .error .emailMalformed
  | some str =>
    match normalizeEmail str with
    | .ok e => .ok e
    | .error .missing => .error .emailMissing
    | .error .invalid => .error .emailMalformed

end Email

/-- The stripped text of a required field of bounded length. -/
def boundedField (missing tooLong : FieldError) (limit : Nat) (g : Given) :
    Except FieldError Text := do
  let text := (← givenText g).strip
  if text.isEmpty then .error missing
  else if limit < text.length then .error tooLong
  else .ok text

/-- The stored form of a display name. -/
def normalizeDisplayName (g : Given) : Except FieldError Text :=
  boundedField .nameMissing .nameTooLong displayNameLimit g

/-- The stored form of an external id. -/
def normalizeExternalId (g : Given) : Except FieldError Text :=
  boundedField .externalIdMissing .externalIdTooLong externalIdLimit g

/-- Why a value cannot be the external id of a caller. -/
inductive CallerIdError where
  /-- the value is no text -/
  | notString
  /-- the text holds a surrogate -/
  | notUnicode
  /-- the text is empty -/
  | empty
  deriving DecidableEq, Repr

/-- The message of a value that cannot be the external id of a caller. -/
def CallerIdError.message : CallerIdError → String
  | .notString => "external_auth_id: string_type"
  | .notUnicode => "external_auth_id: string_unicode"
  | .empty => "external_auth_id: string_too_short"

/-- The external id of a caller, as it is: a text without surrogates and not empty. -/
def callerId (g : Given) : Except CallerIdError Text :=
  match g with
  | .text t =>
    if t.chars?.isNone then .error .notUnicode
    else if t.isEmpty then .error .empty
    else .ok t
  | _ => .error .notString

end UserDirectory.Account
