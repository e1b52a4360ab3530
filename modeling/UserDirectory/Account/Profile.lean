import UserDirectory.Account.Field
import UserDirectory.Account.Instant

/-!
# User profiles

A profile is one user of the directory: its id (canonical identifier text), email, display name,
external id, role, when it was created and last updated, and whether and when it was soft-deleted.
Renaming stamps the update time even when the name does not change; soft deletion stamps the
deletion and the update time with the same instant.
-/

namespace UserDirectory.Account

/-- A user profile. -/
structure Profile where
  id : String
  email : String
  displayName : Text
  externalId : Text
  role : Role
  createdAt : Instant
  updatedAt : Option Instant := none
  deleted : Bool := false
  deletedAt : Option Instant := none
  deriving DecidableEq, Repr

namespace Profile

/-- The profile with a new display name, updated at `now`. -/
def rename (p : Profile) (name : Text) (now : Instant) : Profile :=
  { p with displayName := name, updatedAt := some now }

/-- The profile soft-deleted at `now`. -/
def markDeleted (p : Profile) (now : Instant) : Profile :=
  { p with deleted := true, deletedAt := some now, updatedAt := some now }

/-- Whether the profile is visible to a read that may or may not include deleted profiles. -/
def visible (p : Profile) (includeDeleted : Bool) : Bool :=
  includeDeleted || !p.deleted

@[simp] theorem rename_id (p : Profile) (name : Text) (now : Instant) :
    (p.rename name now).id = p.id := rfl

@[simp] theorem markDeleted_id (p : Profile) (now : Instant) : (p.markDeleted now).id = p.id := rfl

@[simp] theorem markDeleted_deleted (p : Profile) (now : Instant) :
    (p.markDeleted now).deleted = true := rfl

end Profile

end UserDirectory.Account
