import UserDirectory.Account.Policy
import UserDirectory.Account.Listing
import UserDirectory.Account.Redact

/-!
# The directory's operations

Every operation returns an `Outcome`: refused input, missing or hidden profiles and clashes are
failures, and any fault of the store below becomes an infrastructure failure. Input is checked
before the store is touched, the user id before the display name. A value that is no text where
a text is stripped is no refused input: the operation stops with that misuse.

* Creating draws a fresh identifier first, then checks the email, the display name and the
  external id, and adds the profile. It reports `user.created`, or `user.create.failed` with the
  reason `conflict` or `infrastructure`.
* Reading, renaming and deleting load the target (missing or deleted: not found) and, for a
  caller, authorize it; a denied caller gets the same failure as a missing target and the event
  `user.access.denied` with the action.
* Renaming stamps the update time even when the name stays; deleting is soft. A store fault
  during either is reported as `user.update.failed` or `user.delete.failed` for the target.
* Listing compares the page number with 1, then the page size, strips the search text and reads
  one page. A bound that is no number cannot be compared at all; a bound with a fraction part
  passes the comparison but cannot slice the page, which fails like the store.
-/

namespace UserDirectory.Account

open UserDirectory.Number

variable [V : Mail.AddressValidator]

/-- Stops with a refused value, or with a value that is no text. -/
def requireField {α : Type} : Except FieldError α → Act α
  | .ok a => pure a
  | .error e => throw e.toFault

/-- The value of a checked field, or the validation failure of a refused one; a value that is no
text stops the operation. -/
def checkField {α β : Type} (r : Except FieldError α) (k : α → Act (Outcome β)) :
    Act (Outcome β) :=
  match r with
  | .ok a => k a
  | .error e => if e.refuses then pure (.error (.validation e.message)) else throw e.toFault

/-- A new profile: a fresh id, the checked fields and the current instant. -/
def createProfile (email displayName ext : Given) (role : Role) : Act Profile := do
  let id ← freshId
  let email ← requireField (normalizeEmailField email)
  let displayName ← requireField (normalizeDisplayName displayName)
  let ext ← requireField (normalizeExternalId ext)
  let t ← now
  return { id := id.text, email, displayName, externalId := ext, role, createdAt := t }

/-- Creates a user profile. -/
def createUser (email displayName ext : Given) : Act (Outcome Profile) := do
  match ← attempt (createProfile email displayName ext .user) with
  | .error (.invalid m) => return .error (.validation m)
  | .error f => throw f
  | .ok record =>
    match ← attempt (liftStore (Store.add record)) with
    | .error (.clash field) =>
      notify (.mk' .createFailed none .failure [("reason", "conflict")])
      return .error ⟨.conflict, field.message⟩
    | .error _ =>
      notify (.mk' .createFailed none .failure [("reason", "infrastructure")])
      return .error .infrastructure
    | .ok created =>
      notify (.mk' .created (some created.id) .success [])
      return .ok created

/-- The profile behind a caller. -/
def currentUser (caller : Option Caller) : Act (Outcome Profile) := do
  match caller with
  | none => return .error .forbidden
  | some c =>
    match ← attempt (resolve (.text c.externalId)) with
    | .error _ => return .error .infrastructure
    | .ok r => return r

/-- Lets a caller (if any) act on a loaded profile, or hides it. -/
def permit (p : Profile) (caller : Option Caller) (action : String) : Act (Outcome Profile) := do
  match caller with
  | none => return .ok p
  | some c =>
    match ← authorizeCaller c (Given.ofString p.id) with
    | .allow => return .ok p
    | .deny =>
      notify (.mk' .accessDenied (some p.id) .failure [("action", action)])
      return .error .notFound

/-- Loads a live profile by id and admits the caller to it. -/
def loadFor (target : String) (caller : Option Caller) (action : String) :
    Act (Outcome Profile) := do
  match ← liftStore (Store.getById target) with
  | none => return .error .notFound
  | some p => permit p caller action

/-- Reads a profile by id. -/
def userById (userId : Given) (caller : Option Caller) : Act (Outcome Profile) := do
  checkField (parseUserId userId) fun target => do
    match ← attempt (loadFor target caller "read") with
    | .error _ => return .error .infrastructure
    | .ok r => return r

/-- Reads a profile by email. -/
def userByEmail (email : Given) (caller : Option Caller) : Act (Outcome Profile) := do
  checkField (normalizeEmailField email) fun normalized => do
    let load : Act (Outcome Profile) := do
      match ← liftStore (Store.getByEmail (Text.ofString normalized)) with
      | none => return .error .notFound
      | some p => permit p caller "read"
    match ← attempt load with
    | .error _ => return .error .infrastructure
    | .ok r => return r

/-- Renames a profile. -/
def renameUser (userId newName : Given) (caller : Option Caller) : Act (Outcome Profile) := do
  checkField (parseUserId userId) fun target =>
    checkField (normalizeDisplayName newName) fun name => do
      let write : Act (Outcome (Option Profile)) := do
        match ← loadFor target caller "rename" with
        | .error f => return .error f
        | .ok p =>
          let t ← now
          let updated ← liftStore (Store.update (p.rename name t))
          return .ok updated
      match ← attempt write with
      | .error _ =>
        notify (.mk' .updateFailed (some target) .failure [])
        return .error .infrastructure
      | .ok (.error f) => return .error f
      | .ok (.ok none) => return .error .notFound
      | .ok (.ok (some p)) =>
        notify (.mk' .updated (some p.id) .success [("field", "display_name")])
        return .ok p

/-- Soft-deletes a profile. -/
def deleteUser (userId : Given) (caller : Option Caller) : Act (Outcome Profile) := do
  checkField (parseUserId userId) fun target => do
    let write : Act (Outcome (Option Profile)) := do
      match ← loadFor target caller "delete" with
      | .error f => return .error f
      | .ok _ =>
        let t ← now
        let deleted ← liftStore (Store.softDelete target t)
        return .ok deleted
    match ← attempt write with
    | .error _ =>
      notify (.mk' .deleteFailed (some target) .failure [])
      return .error .infrastructure
    | .ok (.error f) => return .error f
    | .ok (.ok none) => return .error .notFound
    | .ok (.ok (some p)) =>
      notify (.mk' .deleted (some p.id) .success [])
      return .ok p

/-- A page bound as a listing request gives it: a whole number (a flag counts as 0 or 1), a
double, or a value of another kind, by the name of its kind. -/
inductive Bound where
  | whole (n : Int)
  | real (x : Binary64)
  | other (kind : String)
  deriving DecidableEq, Repr

/-- Whether a bound is below 1; a bound that is no number cannot be compared. -/
def Bound.belowOne : Bound → Except Misuse Bool
  | .whole n => .ok (n < 1)
  | .real x => .ok (x.below 1)
  | .other k => .error (.typeError ("'<' not supported between instances of '" ++ k ++ "' and 'int'"))

/-- The whole number of a bound, if it is one. -/
def Bound.whole? : Bound → Option Int
  | .whole n => some n
  | _ => none

/-- A listing request as it arrives: page number and size are not yet checked. -/
structure ListRequest where
  search : Given := .none
  sortBy : SortField := .createdAt
  direction : SortDirection := .desc
  pageNumber : Bound := .whole 1
  pageSize : Bound := .whole 20
  deleted : Bool := false
  deriving DecidableEq, Repr

/-- Stops with a misuse. -/
def requireUse {α : Type} : Except Misuse α → Act α
  | .ok a => pure a
  | .error m => throw (.misuse m)

/-- Lists one page of profiles. -/
def listUsers (r : ListRequest) : Act (Outcome Page) := do
  if ← requireUse r.pageNumber.belowOne then
    return .error (.validation "Page number must be at least 1")
  if ← requireUse r.pageSize.belowOne then
    return .error (.validation "Page size must be at least 1")
  let search ← requireUse (r.search.orEmpty.mapError fun k => Misuse.noAttribute k "strip")
  let number := (r.pageNumber.whole?).getD 1
  let size := (r.pageSize.whole?).getD 1
  let q : Query :=
    { search := search.strip
      sortBy := r.sortBy
      direction := r.direction
      pageNumber := number.toNat
      pageSize := size.toNat
      deleted := r.deleted }
  match ← attempt (liftStore (Store.getPage q)) with
  | .error _ => return .error .infrastructure
  | .ok page =>
    if r.pageNumber.whole?.isNone || r.pageSize.whole?.isNone then return .error .infrastructure
    return .ok page

end UserDirectory.Account
