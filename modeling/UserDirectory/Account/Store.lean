import UserDirectory.Account.Profile

/-!
# The profile store

The store keeps profiles in insertion order, at most one per id: putting a profile whose id is
already stored replaces it in place. It counts its additions, updates and soft deletions, and can
be armed to fail its next read or its next write once, with a message.

* A read by id, email or external id returns the first stored profile that matches and is
  visible: deleted profiles only when the read includes them. A read by email compares the stored
  email with the stripped and lower-cased text.
* `add` refuses a profile whose email, or else whose external id, equals that of a live profile
  (the first such live profile decides which), and then puts it.
* `update` replaces a live stored profile; a missing or deleted one is left alone.
* `softDelete` marks a live stored profile deleted at the given instant.
* `seed` puts a profile without checks, failures or counting.

Every read first consumes an armed read failure, every write an armed write failure.
-/

namespace UserDirectory.Account


/-- The field that makes an added profile clash with a live one. -/
inductive ClashField where
  | email
  | externalId
  deriving DecidableEq, Repr

/-- The message of a clash. -/
def ClashField.message : ClashField → String
  | .email => "A user with this email already exists"
  | .externalId => "A user with this external auth id already exists"

/-- Why a store operation did not complete. -/
inductive StoreError where
  /-- an armed failure, with its message -/
  | failed (message : Text)
  /-- an added profile clashes with a live one -/
  | clash (field : ClashField)
  deriving DecidableEq, Repr

/-- The profile store. -/
structure Store where
  profiles : List Profile := []
  adds : Nat := 0
  updates : Nat := 0
  softDeletes : Nat := 0
  readFailure : Option Text := none
  writeFailure : Option Text := none
  deriving DecidableEq, Repr

/-- The result of a store operation and the store after it. -/
abbrev StoreStep (α : Type) := Except StoreError α × Store

namespace Store

/-- Puts a profile: in place of a stored profile with the same id, else last. -/
def put (ps : List Profile) (p : Profile) : List Profile :=
  if ps.any (·.id == p.id) then ps.map fun q => if q.id == p.id then p else q else ps ++ [p]

/-- The stored profile with an id. -/
def find? (s : Store) (id : String) : Option Profile :=
  s.profiles.find? (·.id == id)

/-- Consumes an armed read failure. -/
def beginRead (s : Store) : Except StoreError Unit × Store :=
  match s.readFailure with
  | some m => (.error (.failed m), { s with readFailure := none })
  | none => (.ok (), s)

/-- Consumes an armed write failure. -/
def beginWrite (s : Store) : Except StoreError Unit × Store :=
  match s.writeFailure with
  | some m => (.error (.failed m), { s with writeFailure := none })
  | none => (.ok (), s)

/-- A read that, unless it fails, returns `f` of the store. -/
def reading {α : Type} (f : Store → α) (s : Store) : StoreStep α :=
  match s.beginRead with
  | (.error e, s') => (.error e, s')
  | (.ok (), s') => (.ok (f s'), s')

/-- The first profile satisfying `p` that is visible. -/
def firstVisible (s : Store) (p : Profile → Bool) (includeDeleted : Bool) : Option Profile :=
  s.profiles.find? fun q => p q && q.visible includeDeleted

/-- The visible profile with an id. -/
def getById (id : String) (includeDeleted : Bool := false) : Store → StoreStep (Option Profile) :=
  reading fun s => (s.find? id).filter (·.visible includeDeleted)

/-- The first visible profile with an email. -/
def getByEmail (email : Text) (includeDeleted : Bool := false) :
    Store → StoreStep (Option Profile) :=
  let needle := email.strip.lower
  reading fun s => s.firstVisible (fun p => Text.ofString p.email == needle) includeDeleted

/-- The first visible profile with an external id. -/
def getByExternalId (ext : Text) (includeDeleted : Bool := false) :
    Store → StoreStep (Option Profile) :=
  reading fun s => s.firstVisible (·.externalId == ext) includeDeleted

/-- The clash of a profile with the live profiles, if any. -/
def clashOf (ps : List Profile) (p : Profile) : Option ClashField :=
  ps.findSome? fun q =>
    if q.deleted then none
    else if q.email == p.email then some .email
    else if q.externalId == p.externalId then some .externalId
    else none

/-- Adds a profile unless it clashes with a live one. -/
def add (p : Profile) (s : Store) : StoreStep Profile :=
  match s.beginWrite with
  | (.error e, s') => (.error e, s')
  | (.ok (), s') =>
    match clashOf s'.profiles p with
    | some f => (.error (.clash f), s')
    | none => (.ok p, { s' with profiles := put s'.profiles p, adds := s'.adds + 1 })

/-- Replaces a live stored profile. -/
def update (p : Profile) (s : Store) : StoreStep (Option Profile) :=
  match s.beginWrite with
  | (.error e, s') => (.error e, s')
  | (.ok (), s') =>
    match s'.find? p.id with
    | some q =>
      if q.deleted then (.ok none, s')
      else (.ok (some p), { s' with profiles := put s'.profiles p, updates := s'.updates + 1 })
    | none => (.ok none, s')

/-- Soft-deletes a live stored profile at `now`. -/
def softDelete (id : String) (now : Instant) (s : Store) : StoreStep (Option Profile) :=
  match s.beginWrite with
  | (.error e, s') => (.error e, s')
  | (.ok (), s') =>
    match s'.find? id with
    | some q =>
      if q.deleted then (.ok none, s')
      else
        let q' := q.markDeleted now
        (.ok (some q'), { s' with profiles := put s'.profiles q', softDeletes := s'.softDeletes + 1 })
    | none => (.ok none, s')

/-- Puts a profile without checks or counting. -/
def seed (p : Profile) (s : Store) : Store :=
  { s with profiles := put s.profiles p }

end Store

end UserDirectory.Account
