import UserDirectory.Account.World

/-!
# The in-memory identity provider

`ensureAdmin` makes sure an identity exists for an email and carries the administrator claim. It
counts every call, then fails once if a failure is armed; otherwise it looks the identity up by
the stripped and lower-cased email, creates it with uid `idp-` and the hexadecimal digits of a
fresh identifier when there is none, sets its role claim to `admin`, and returns its uid. Calls
for the same key therefore return the same uid. An email that is no text cannot be stripped.
-/

namespace UserDirectory.Account

/-- The key of an email at the identity provider. -/
def providerKey : Given → Except Misuse Text
  | .text t => .ok t.strip.lower
  | g => .error (.noAttribute g.kind "strip")

/-- Sets a claim: a present key keeps its place, a new key goes last. -/
def setClaim (claims : List (String × String)) (k v : String) : List (String × String) :=
  if claims.any (·.1 == k) then claims.map fun c => if c.1 == k then (k, v) else c
  else claims ++ [(k, v)]

/-- Makes sure an administrator identity exists for an email; returns its uid. -/
def ensureAdmin (email _password displayName : Given) : Act String := do
  modify fun w => { w with provider := { w.provider with ensureCalls := w.provider.ensureCalls + 1 } }
  let w ← get
  match w.provider.failure with
  | some m =>
    set { w with provider := { w.provider with failure := none } }
    throw (.providerFailed m)
  | none =>
    let key ← match providerKey email with
      | .ok k => pure k
      | .error m => throw (.misuse m)
    let identity ← match w.provider.identities.lookup key with
      | some i => pure i
      | none => do
        let u ← freshId
        let i : Identity := ⟨"idp-" ++ u.hex, key, displayName, []⟩
        modify fun w => { w with provider := { w.provider with
          identities := w.provider.identities ++ [(key, i)] } }
        pure i
    let identity := { identity with claims := setClaim identity.claims "role" "admin" }
    modify fun w => { w with provider := { w.provider with
      identities := w.provider.identities.map fun e => if e.1 == key then (key, identity) else e } }
    pure identity.uid

end UserDirectory.Account
