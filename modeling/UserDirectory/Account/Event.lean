import UserDirectory.Account.Field

/-!
# Security events

The directory reports user creation, update and deletion, their failures, denied access and the
seeding of the administrator as security events: a name, the id of the profile concerned (if
any), whether it succeeded, and optional string properties.
-/

namespace UserDirectory.Account

/-- Names of security events. -/
inductive EventName where
  | created
  | createFailed
  | updated
  | updateFailed
  | deleted
  | deleteFailed
  | accessDenied
  | adminSeeded
  deriving DecidableEq, Repr

namespace EventName

/-- The text of an event name. -/
def text : EventName → String
  | created => "user.created"
  | createFailed => "user.create.failed"
  | updated => "user.updated"
  | updateFailed => "user.update.failed"
  | deleted => "user.deleted"
  | deleteFailed => "user.delete.failed"
  | accessDenied => "user.access.denied"
  | adminSeeded => "admin.seeded"

/-- The event name with a text. -/
def ofText? (s : String) : Option EventName :=
  [created, createFailed, updated, updateFailed, deleted, deleteFailed, accessDenied,
    adminSeeded].find? (·.text == s)

end EventName

/-- Whether an event reports a success. -/
inductive EventOutcome where
  | success
  | failure
  deriving DecidableEq, Repr

/-- The text of an event outcome. -/
def EventOutcome.text : EventOutcome → String
  | .success => "Success"
  | .failure => "Failure"

/-- A security event. -/
structure Event where
  name : EventName
  subject : Option String
  outcome : EventOutcome
  properties : Option (List (String × String))
  deriving DecidableEq, Repr

/-- An event with properties; no properties at all are recorded as none. -/
def Event.mk' (name : EventName) (subject : Option String) (outcome : EventOutcome)
    (props : List (String × String)) : Event :=
  ⟨name, subject, outcome, if props.isEmpty then none else some props⟩

end UserDirectory.Account
