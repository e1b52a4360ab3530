import UserDirectory.Ident.Uuid
import UserDirectory.Account.Store
import UserDirectory.Account.Event

/-!
# The directory's world

Everything the directory's operations read and change: the profile store, the in-memory identity
provider, the clock, the supply of fresh identifiers and the security events reported so far.

Operations run in `Act`: they change the world and may stop with a `Fault`, which keeps the
changes made before it. Faults are the directory's exceptional outcomes: a store failure, a clash
on adding, a refused value, a failure of the identity provider, a value that cannot name a
caller, or an operation applied to a value that does not support it.

Fresh identifiers come from a list of preset values first, one per call, and then count up: the
`n`-th call gives the identifier that the preset `n` writes if there is one, else the identifier
of the number `n`. A preset text that writes no identifier is a refused value; nothing at all as
a preset is a value of the wrong kind, and a preset of another kind has no `replace`.
-/

namespace UserDirectory.Account

open UserDirectory.Ident

/-- An identity held by the identity provider. -/
structure Identity where
  uid : String
  email : Text
  displayName : Given
  claims : List (String × String)
  deriving DecidableEq, Repr

/-- The in-memory identity provider: identities by email key, the number of `ensure` calls, and a
one-shot failure. -/
structure Provider where
  identities : List (Text × Identity) := []
  ensureCalls : Nat := 0
  failure : Option Text := none
  deriving DecidableEq, Repr

/-- The supply of fresh identifiers. -/
structure IdSupply where
  presets : List Given := []
  issued : Nat := 0
  deriving DecidableEq, Repr

/-- The world of the directory. -/
structure World where
  store : Store := {}
  provider : Provider := {}
  clock : Instant := Instant.sessionStart
  ids : IdSupply := {}
  events : List Event := []
  deriving DecidableEq, Repr

/-- Exceptional outcomes of operations. -/
inductive Fault where
  /-- an armed store failure -/
  | storeFailed (message : Text)
  /-- an added profile clashes with a live one -/
  | clash (field : ClashField)
  /-- a refused value -/
  | invalid (message : String)
  /-- the identity provider failed -/
  | providerFailed (message : Text)
  /-- a request that the identity platform refused before reaching it, with the refusal's own
  message -/
  | requestRefused (message : Text)
  /-- a value that cannot be the external id of a caller -/
  | badCaller (e : CallerIdError)
  /-- an operation applied to a value that does not support it -/
  | misuse (m : Misuse)
  deriving DecidableEq, Repr

/-- The message of a fault. -/
def Fault.message : Fault → Text
  | .storeFailed m => m
  | .clash f => Text.ofString f.message
  | .invalid m => Text.ofString m
  | .providerFailed m => m
  | .requestRefused m => m
  | .badCaller e => Text.ofString e.message
  | .misuse m => Text.ofString m.message

/-- The fault of a field error: a refusal, or a value that is no text. -/
def FieldError.toFault : FieldError → Fault
  | .notText k => .misuse (.noAttribute k "strip")
  | e => .invalid e.message

/-- An operation on the world. -/
abbrev Act := ExceptT Fault (StateM World)

/-- The fault of a store error. -/
def StoreError.toFault : StoreError → Fault
  | .failed m => .storeFailed m
  | .clash f => .clash f

/-- Runs a store operation on the world's store. -/
def liftStore {α : Type} (f : Store → StoreStep α) : Act α := do
  let w ← get
  let (r, s') := f w.store
  set { w with store := s' }
  match r with
  | .ok a => pure a
  | .error e => throw e.toFault

/-- The current instant. -/
def now : Act Instant := do
  return (← get).clock

/-- Records a security event. -/
def notify (e : Event) : Act Unit :=
  modify fun w => { w with events := w.events ++ [e] }

/-- The identifier that a preset value writes. -/
def presetId : Given → Except Fault Uuid
  | .text t => (Uuid.ofText t).mapError fun e => .invalid e.message
  | .none => .error (.misuse (.typeError
      "one of the hex, bytes, bytes_le, fields, or int arguments must be given"))
  | g => .error (.misuse (.noAttribute g.kind "replace"))

/-- A fresh identifier. -/
def freshId : Act Uuid := do
  let w ← get
  let n := w.ids.issued + 1
  set { w with ids := { w.ids with issued := n } }
  match w.ids.presets[n - 1]? with
  | none => pure (Uuid.ofNat n)
  | some g =>
    match presetId g with
    | .ok u => pure u
    | .error f => throw f

/-- Runs an operation and returns its fault instead of stopping with it. -/
def attempt {α : Type} (x : Act α) : Act (Except Fault α) :=
  tryCatch (x.map .ok) fun f => pure (.error f)

end UserDirectory.Account
