import UserDirectory.Account.Bootstrap
import UserDirectory.Account.Clock

/-!
# Scenarios

A scenario runs steps in order against one world: one store, one identity provider, one clock and
one supply of identifiers. Each step answers a reply or a fault; a fault ends only its own step.
Beside its reply, every step reports the security events reported during it and the write
counters of the store and the provider's `ensure` count after it.

Steps either drive the directory's operations, look at the store or the provider directly, or
arrange the world: move the clock, arm or disarm a one-shot failure of the store or the provider,
or seed a profile. A seeded profile is created like any other — drawing an identifier first and
checking its fields — and then stored as it is, deleted if asked, without uniqueness checks or
counting. A role that a step names outright must be spelled exactly; an absent one is a plain
user; so must the role of a caller a step names, and a stored role it states. Likewise an
ordering or a direction that a listing step names must be spelled exactly, and an absent one is
the default: newest first.

Steps pass their values to the operations as given. A direct read of the store by a key that is
no text still consumes an armed read failure; it then finds nothing, or, for a list or an object,
is refused as a key that cannot be looked up. A direct read by email strips the value, which must
be a text.

A step that names a caller whose external id cannot be one fails before it does anything.
-/

namespace UserDirectory.Session

open UserDirectory.Account

variable [V : Mail.AddressValidator]

/-- A caller as a step names it: its external id, and its role by name, if at all. -/
structure CallerSpec where
  externalId : Given
  role : Given := .none
  deriving DecidableEq, Repr

/-- A profile as a step describes it; the role is named outright, if at all. -/
structure ProfileSpec where
  email : Given
  displayName : Given
  externalId : Given
  role : Given := .none
  deleted : Bool := false
  deriving DecidableEq, Repr

/-- A step of a scenario. A failure message of `none` disarms the failure. -/
inductive Step where
  | advance (span : Seconds)
  | failNextRead (message : Option Text)
  | failNextWrite (message : Option Text)
  | failNextProvider (message : Option Text)
  | seed (spec : ProfileSpec)
  | dump
  | createUser (email displayName externalId : Given)
  | currentUser (caller : Option CallerSpec)
  | userById (userId : Given) (caller : Option CallerSpec)
  | userByEmail (email : Given) (caller : Option CallerSpec)
  | renameUser (userId newName : Given) (caller : Option CallerSpec)
  | deleteUser (userId : Given) (caller : Option CallerSpec)
  | listUsers (sortBy direction : Given) (request : ListRequest)
  | resolve (externalId : Given)
  | authorize (externalId : Given) (storedRole : Given) (target : Given)
  | authorizeCaller (caller : CallerSpec) (target : Given)
  | isAdmin (caller : CallerSpec)
  | storeGetById (userId : Given) (includeDeleted : Bool)
  | storeGetByEmail (email : Given) (includeDeleted : Bool)
  | storeGetByExternalId (externalId : Given) (includeDeleted : Bool)
  | storeAdd (spec : ProfileSpec)
  | storeSoftDelete (userId : Given)
  | providerEnsure (email password displayName : Given)
  | bootstrap (config : SeedConfig)
  deriving Repr

/-- What a step answers. -/
inductive Reply where
  | done
  | profile (p : Profile)
  | found (p : Option Profile)
  | uid (text : String)
  | profiles (ps : List Profile)
  | outcome (o : Outcome Profile)
  | page (o : Outcome Page)
  | decision (d : Decision)
  | flag (b : Bool)
  | state (s : SeedState)
  deriving Repr

/-- The write counters after a step. -/
structure Counts where
  adds : Nat
  updates : Nat
  softDeletes : Nat
  ensures : Nat
  deriving DecidableEq, Repr

/-- The counters of a world. -/
def countsOf (w : World) : Counts :=
  ⟨w.store.adds, w.store.updates, w.store.softDeletes, w.provider.ensureCalls⟩

/-- What a step reports. -/
structure StepReport where
  result : Except Fault Reply
  events : List Event
  counts : Counts
  deriving Repr

/-- The role that a step names: none when absent, otherwise the role spelled exactly so. -/
def roleNamed? (g : Given) : Except Fault (Option Role) :=
  if g.present then ((Role.named g).map some).mapError .invalid else .ok none

/-- The caller that a step names: its role is read first, then its external id. -/
def callerOf (spec : CallerSpec) : Act Caller :=
  match roleNamed? spec.role with
  | .error f => throw f
  | .ok role =>
    match Caller.make spec.externalId (role.getD .user) with
    | .ok c => pure c
    | .error e => throw (.badCaller e)

/-- The caller, if any, that a step names. -/
def callerOf? : Option CallerSpec → Act (Option Caller)
  | none => pure none
  | some spec => some <$> callerOf spec

/-- The role a description names: a plain user when absent. -/
def ProfileSpec.role? (spec : ProfileSpec) : Except Fault Role :=
  (roleNamed? spec.role).map (·.getD .user)

/-- The ordering that a step names: creation time when absent, otherwise the ordering spelled
exactly so. -/
def sortFieldNamed (g : Given) : Except Fault SortField :=
  if !g.present then .ok .createdAt
  else if g = Given.ofString "email" then .ok .email
  else if g = Given.ofString "name" then .ok .name
  else if g = Given.ofString "created_at" then .ok .createdAt
  else .error (.invalid (g.literal ++ " is not a valid UserSortField"))

/-- The direction that a step names: descending when absent, otherwise the direction spelled
exactly so. -/
def sortDirectionNamed (g : Given) : Except Fault SortDirection :=
  if !g.present then .ok .desc
  else if g = Given.ofString "asc" then .ok .asc
  else if g = Given.ofString "desc" then .ok .desc
  else .error (.invalid (g.literal ++ " is not a valid SortDirection"))

/-- A profile created from a description: the role, then a fresh id, checked fields and the
current instant. -/
def createFrom (spec : ProfileSpec) : Act Profile := do
  match spec.role? with
  | .error f => throw f
  | .ok role => createProfile spec.email spec.displayName spec.externalId role

/-- A read of the store by a key that is no text: it consumes an armed read failure, and then finds
nothing or refuses the key. -/
def readByOther (key : Given) : Act (Option Profile) := do
  liftStore Store.beginRead
  if key.hashable then return none
  throw (.misuse (.typeError ("unhashable type: '" ++ key.kind ++ "'")))

/-- A read of the store by id, as given. -/
def storeById (key : Given) (includeDeleted : Bool) : Act (Option Profile) :=
  match key with
  | .text t =>
    match t.toString? with
    | some id => liftStore (Store.getById id includeDeleted)
    | none => do liftStore Store.beginRead; return none
  | g => readByOther g

/-- A soft deletion in the store by id, as given: a key that is no text consumes an armed write
failure and deletes nothing, or is refused. -/
def storeSoftDelete (key : Given) : Act (Option Profile) := do
  let t ← now
  match key.text?.bind Text.toString? with
  | some id => liftStore (Store.softDelete id t)
  | none =>
    liftStore Store.beginWrite
    if key.hashable then return none
    throw (.misuse (.typeError ("unhashable type: '" ++ key.kind ++ "'")))

/-- Seeds a profile. -/
def seedProfile (spec : ProfileSpec) : Act Profile := do
  let p ← createFrom spec
  let t ← now
  let p := if spec.deleted then p.markDeleted t else p
  modify fun w => { w with store := w.store.seed p }
  return p

/-- Runs one step. -/
def runStep : Step → Act Reply
  | .advance span => do
    advanceClock span
    return .done
  | .failNextRead m => do
    modify fun w => { w with store := { w.store with readFailure := m } }
    return .done
  | .failNextWrite m => do
    modify fun w => { w with store := { w.store with writeFailure := m } }
    return .done
  | .failNextProvider m => do
    modify fun w => { w with provider := { w.provider with failure := m } }
    return .done
  | .seed spec => .profile <$> seedProfile spec
  | .dump => do return .profiles (← get).store.profiles
  | .createUser e n x => .outcome <$> createUser e n x
  | .currentUser c => do return .outcome (← currentUser (← callerOf? c))
  | .userById t c => do return .outcome (← userById t (← callerOf? c))
  | .userByEmail e c => do return .outcome (← userByEmail e (← callerOf? c))
  | .renameUser t n c => do return .outcome (← renameUser t n (← callerOf? c))
  | .deleteUser t c => do return .outcome (← deleteUser t (← callerOf? c))
  | .listUsers sortBy direction r =>
    match sortFieldNamed sortBy, sortDirectionNamed direction with
    | .error f, _ => throw f
    | .ok _, .error f => throw f
    | .ok field, .ok dir => .page <$> listUsers { r with sortBy := field, direction := dir }
  | .resolve x => .outcome <$> resolve x
  | .authorize x r t =>
    match roleNamed? r with
    | .error f => throw f
    | .ok known => .decision <$> authorize x known t
  | .authorizeCaller c t => do return .decision (← authorizeCaller (← callerOf c) t)
  | .isAdmin c => do return .flag (← isAdmin (← callerOf c))
  | .storeGetById t d => .found <$> storeById t d
  | .storeGetByEmail e d =>
    match e with
    | .text t => .found <$> liftStore (Store.getByEmail t d)
    | g => do
      liftStore Store.beginRead
      throw (.misuse (.noAttribute g.kind "strip"))
  | .storeGetByExternalId x d =>
    match x with
    | .text t => .found <$> liftStore (Store.getByExternalId t d)
    | _ => do liftStore Store.beginRead; return .found none
  | .storeAdd spec => do
    let p ← createFrom spec
    return .profile (← liftStore (Store.add p))
  | .storeSoftDelete t => .found <$> storeSoftDelete t
  | .providerEnsure e p n => .uid <$> ensureAdmin e p n
  | .bootstrap c => .state <$> seedAdmin c

/-- Runs one step and reports it. -/
def reportStep (s : Step) : StateM World StepReport := do
  modify fun w => { w with events := [] }
  let r ← (runStep s).run
  let w ← get
  return ⟨r, w.events, countsOf w⟩

/-- The world a scenario starts in, with its preset identifiers. -/
def initialWorld (presets : List Given) : World :=
  { ids := { presets } }

/-- Runs steps in order, reporting each. -/
def runSteps (steps : List Step) : StateM World (List StepReport) :=
  steps.mapM reportStep

/-- Runs a scenario from the initial world. -/
def runScenario (presets : List Given) (steps : List Step) : List StepReport :=
  ((runSteps steps).run (initialWorld presets)).1

end UserDirectory.Session
