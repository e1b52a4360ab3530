import UserDirectory.Token.Platform

/-!
# Provisioning the administrator, for every script

Provisioning the administrator on the identity platform (`provisionAdmin`) runs against a script
of the platform's answers. This module says what it does for every script.

* A platform computation run on a platform gives its result and the platform after it
  (`PlatformM.exec`); each request has its own lemma, and callers never open the monad.
* The lookups and the creation of the account end in one of seven ways (`AccountOutcome`), each
  fixed by the script's answers, and every script ends them in one of these ways
  (`exists_accountOutcome`).
* What follows once the account is known is granting it the role (`grantAdmin`): reading its
  claims, and setting them with `role` made `admin` unless `role` already is `admin`
  (`hasAdminClaim_iff`); setting a member keeps every other key (`Value.lookup_setMember_ne`).

The main statement, `provisionAdmin_grants_role`, describes the answer and the requests of every
run: the uid answered, the claims set and when, and how each fault ends it.
-/

namespace UserDirectory.Json.Value

theorem lookup_map_replace_ne {ms : List (String × Value)} {key k : String} (v : Value)
    (hk : k ≠ key) :
    (ms.map fun m => if m.1 == key then (key, v) else m).lookup k = ms.lookup k := by
  induction ms with
  | nil => rfl
  | cons m ms ih =>
    obtain ⟨k', x⟩ := m
    by_cases hk' : k' = key
    · subst hk'
      have hkk : (k == k') = false := beq_false_of_ne hk
      simp only [List.map_cons, beq_self_eq_true, if_true, List.lookup_cons, hkk, ih]
    · have hkk : (k' == key) = false := beq_false_of_ne hk'
      simp only [List.map_cons, hkk, Bool.false_eq_true, if_false, List.lookup_cons, ih]

theorem lookup_map_replace_self {ms : List (String × Value)} {key : String} (v : Value)
    (h : ms.any (·.1 == key) = true) :
    (ms.map fun m => if m.1 == key then (key, v) else m).lookup key = some v := by
  induction ms with
  | nil => cases h
  | cons m ms ih =>
    obtain ⟨k', x⟩ := m
    by_cases hk' : k' = key
    · subst hk'
      simp
    · have hkk : (k' == key) = false := beq_false_of_ne hk'
      have hkk' : (key == k') = false := beq_false_of_ne (Ne.symm hk')
      have hms : ms.any (·.1 == key) = true := by simpa [hkk] using h
      simp only [List.map_cons, hkk, Bool.false_eq_true, if_false, List.lookup_cons, hkk', ih hms]

theorem lookup_setMember_self (ms : List (String × Value)) (key : String) (v : Value) :
    (setMember ms key v).lookup key = some v := by
  unfold setMember
  split
  · rename_i h
    exact lookup_map_replace_self v h
  · rename_i h
    simp only [List.any_eq_true, not_exists, not_and] at h
    have hnone : ms.lookup key = none :=
      List.lookup_eq_none_iff.mpr fun m hm =>
        bne_iff_ne.mpr fun he => h m hm (by rw [← he]; exact beq_self_eq_true key)
    rw [List.lookup_append, hnone]
    simp

theorem lookup_setMember_ne (ms : List (String × Value)) {key k : String} (v : Value)
    (hk : k ≠ key) : (setMember ms key v).lookup k = ms.lookup k := by
  unfold setMember
  split
  · exact lookup_map_replace_ne v hk
  · rw [List.lookup_append]
    cases ms.lookup k <;> simp [hk]

end UserDirectory.Json.Value

namespace UserDirectory.Token

open UserDirectory.Json UserDirectory.Account

/-! ## Running platform computations -/

/-- The result of a platform computation run on a platform, and the platform after it. -/
def PlatformM.exec {α : Type} (x : PlatformM α) (p : Platform) :
    Except PlatformFault α × Platform :=
  x.run.run p

namespace PlatformM

variable {α β : Type}

@[simp] theorem exec_pure (a : α) (p : Platform) : (pure a : PlatformM α).exec p = (.ok a, p) :=
  rfl

@[simp] theorem exec_bind (x : PlatformM α) (f : α → PlatformM β) (p : Platform) :
    (x >>= f).exec p =
      match x.exec p with
      | (.ok a, p') => (f a).exec p'
      | (.error e, p') => (.error e, p') := by
  simp only [exec, ExceptT.run_bind, StateT.run_bind]
  rcases x.run.run p with ⟨_ | _, p'⟩ <;> rfl

@[simp] theorem exec_map (f : α → β) (x : PlatformM α) (p : Platform) :
    (f <$> x).exec p =
      match x.exec p with
      | (.ok a, p') => (.ok (f a), p')
      | (.error e, p') => (.error e, p') := by
  simp only [exec, ExceptT.run_map, StateT.run_map]
  rcases x.run.run p with ⟨_ | _, p'⟩ <;> rfl

@[simp] theorem exec_throw (e : PlatformFault) (p : Platform) :
    (throw e : PlatformM α).exec p = (.error e, p) := rfl

@[simp] theorem exec_get (p : Platform) : (get : PlatformM Platform).exec p = (.ok p, p) := rfl

@[simp] theorem exec_set (p p' : Platform) : (set p' : PlatformM PUnit).exec p = (.ok ⟨⟩, p') :=
  rfl

@[simp] theorem exec_tryCatch (x : PlatformM α) (h : PlatformFault → PlatformM α)
    (p : Platform) :
    (tryCatch x h : PlatformM α).exec p =
      match x.exec p with
      | (.ok a, p') => (.ok a, p')
      | (.error e, p') => (h e).exec p' := by
  unfold exec
  generalize hx : x.run.run p = r
  simp only [ExceptT.run] at hx ⊢
  rcases r with ⟨_ | _, p'⟩
  all_goals
    simp only [tryCatch, MonadExcept.tryCatch, tryCatchThe, MonadExceptOf.tryCatch,
      ExceptT.tryCatch, ExceptT.mk, StateT.run_bind, hx]
    rfl

end PlatformM

open PlatformM

/-! ## Requests -/

namespace Script

/-- The answer of the `n`-th account lookup; once the script is exhausted, no account is found. -/
def lookupAnswer (s : Script) (n : Nat) : Except PlatformFault Account :=
  s.lookups.getD n (.error (.platform .userNotFound))

theorem lookupAnswer_tail (s : Script) (create : Except PlatformFault Account)
    (setClaims : Except PlatformFault Unit) :
    ({ lookups := s.lookups.tail, create := create, setClaims := setClaims } : Script).lookupAnswer
        0 = s.lookupAnswer 1 := by
  cases s with
  | mk lookups => cases lookups <;> rfl

end Script

@[simp] theorem exec_request (c : PlatformCall) (p : Platform) :
    (request c).exec p = (.ok (), { p with calls := p.calls ++ [c] }) := rfl

@[simp] theorem exec_liftExcept {α : Type} (r : Except PlatformFault α) (p : Platform) :
    (lookupAccount.liftExcept r).exec p = (r, p) := by
  cases r <;> rfl

theorem exec_lookupAccount (email : Value) (p : Platform) :
    (lookupAccount email).exec p =
      (p.script.lookupAnswer 0,
        { script := { p.script with lookups := p.script.lookups.tail },
          calls := p.calls ++ [.lookup email] }) := by
  rcases p with ⟨⟨_ | ⟨r, rest⟩, create, setClaims⟩, calls⟩
  · rfl
  · simp [lookupAccount, Script.lookupAnswer]

theorem exec_createAccount (email pw dn : Value) (p : Platform) :
    (createAccount email pw dn).exec p =
      (p.script.create, { p with calls := p.calls ++ [.create email pw dn true] }) := by
  simp [createAccount]

theorem exec_setAccountClaims (uid : Value) (claims : List (String × Value)) (p : Platform) :
    (setAccountClaims uid claims).exec p =
      (p.script.setClaims, { p with calls := p.calls ++ [.setClaims uid claims] }) := by
  simp [setAccountClaims]

@[simp] theorem exec_tryRequest {α : Type} (x : PlatformM α) (p : Platform) :
    (tryRequest x).exec p = (.ok (x.exec p).1, (x.exec p).2) := by
  have hmap : (x.map Except.ok : PlatformM (Except PlatformFault α)) = Except.ok <$> x := rfl
  rw [tryRequest, hmap, exec_tryCatch, exec_map]
  rcases x.exec p with ⟨_ | _, p'⟩ <;> rfl

/-! ## Logging an account and reading its claims -/

/-- The misuse that logging an account meets, if any: the safe identifier of its uid comes
first, then the masked email. -/
def logFault (uid email : Value) : Option Misuse :=
  match safeIdentifier uid.given (Text.ofString "uid") with
  | .error m => some m
  | .ok _ =>
    match maskEmail email.given with
    | .error m => some m
    | .ok _ => none

theorem exec_logAccount_of_none {uid email : Value} (h : logFault uid email = none)
    (p : Platform) : (logAccount uid email).exec p = (.ok (), p) := by
  unfold logFault at h
  unfold logAccount liftMisuse
  split at h
  · cases h
  · rename_i t hs
    split at h
    · cases h
    · rename_i t' hm
      simp [hs, hm]

theorem exec_logAccount_of_some {uid email : Value} {m : Misuse} (h : logFault uid email = some m)
    (p : Platform) : (logAccount uid email).exec p = (.error (.misuse m), p) := by
  unfold logFault at h
  unfold logAccount liftMisuse
  split at h
  · rename_i m' hs
    cases h
    simp [hs]
  · rename_i t hs
    split at h
    · rename_i m' hm
      cases h
      simp [hs, hm]
    · cases h

/-- The claims of an account as a mapping; absent claims are none. -/
def Account.claimMap (a : Account) : Except MappingError (List (String × Value)) :=
  (if a.claims.truthy then a.claims else .obj []).toMapping

/-- The fault of claims that cannot be a mapping: a value of the wrong kind is a misuse, an entry
of the wrong length a refused argument. -/
def mappingFault (e : MappingError) : PlatformFault :=
  if e.isKindError then .misuse (.typeError e.message) else .refused (Text.ofString e.message)

theorem exec_claimsOf_of_ok {a : Account} {claims : List (String × Value)}
    (h : a.claimMap = .ok claims) (p : Platform) : (claimsOf a).exec p = (.ok claims, p) := by
  unfold Account.claimMap at h
  simp [claimsOf, h]

theorem exec_claimsOf_of_error {a : Account} {e : MappingError}
    (h : a.claimMap = .error e) (p : Platform) :
    (claimsOf a).exec p = (.error (mappingFault e), p) := by
  unfold Account.claimMap at h
  unfold mappingFault
  by_cases hk : e.isKindError <;> simp [claimsOf, h, hk]

theorem hasAdminClaim_iff (claims : List (String × Value)) :
    hasAdminClaim claims = true ↔ claims.lookup "role" = some (.str (Text.ofString "admin")) := by
  unfold hasAdminClaim
  split
  · rename_i r hr
    rw [hr]
    simp
  · rename_i hr
    simp only [Bool.false_eq_true, false_iff]
    exact fun h => hr _ h

/-! ## The lookups and the creation -/

/-- How the lookups and the creation of an account end, by the script's answers: on an account
or with a fault, after the requests listed. -/
inductive AccountOutcome (s : Script) (email pw dn : Value) :
    Except PlatformFault Account → List PlatformCall → Prop
  /-- the first lookup finds the account -/
  | found {a : Account} (h₁ : s.lookupAnswer 0 = .ok a) :
      AccountOutcome s email pw dn (.ok a) [.lookup email]
  /-- the first lookup fails otherwise than by finding no account -/
  | lookupFailed {e : PlatformFault} (h₁ : s.lookupAnswer 0 = .error e)
      (hne : e ≠ .platform .userNotFound) :
      AccountOutcome s email pw dn (.error e) [.lookup email]
  /-- no account is found; it is created, and the creation is logged -/
  | created {a : Account} (h₁ : s.lookupAnswer 0 = .error (.platform .userNotFound))
      (hc : s.create = .ok a) (hlog : logFault a.uid email = none) :
      AccountOutcome s email pw dn (.ok a) [.lookup email, .create email pw dn true]
  /-- no account is found; it is created, but the creation cannot be logged -/
  | createdUnlogged {a : Account} {m : Misuse}
      (h₁ : s.lookupAnswer 0 = .error (.platform .userNotFound)) (hc : s.create = .ok a)
      (hlog : logFault a.uid email = some m) :
      AccountOutcome s email pw dn (.error (.misuse m)) [.lookup email, .create email pw dn true]
  /-- no account is found, and the creation fails otherwise than by the email being taken -/
  | createFailed {e : PlatformFault} (h₁ : s.lookupAnswer 0 = .error (.platform .userNotFound))
      (hc : s.create = .error e) (hne : e ≠ .platform .emailExists) :
      AccountOutcome s email pw dn (.error e) [.lookup email, .create email pw dn true]
  /-- no account is found, the email turns out taken, and the second lookup finds the account -/
  | raced {a : Account} (h₁ : s.lookupAnswer 0 = .error (.platform .userNotFound))
      (hc : s.create = .error (.platform .emailExists)) (h₂ : s.lookupAnswer 1 = .ok a) :
      AccountOutcome s email pw dn (.ok a)
        [.lookup email, .create email pw dn true, .lookup email]
  /-- no account is found, the email turns out taken, and the second lookup fails, even by
  finding no account -/
  | retryFailed {e : PlatformFault} (h₁ : s.lookupAnswer 0 = .error (.platform .userNotFound))
      (hc : s.create = .error (.platform .emailExists)) (h₂ : s.lookupAnswer 1 = .error e) :
      AccountOutcome s email pw dn (.error e)
        [.lookup email, .create email pw dn true, .lookup email]

theorem accountFor_exec {email pw dn : Value} (p : Platform) {r : Except PlatformFault Account}
    {cs : List PlatformCall} (h : AccountOutcome p.script email pw dn r cs) :
    ∃ p', (accountFor email pw dn).exec p = (r, p') ∧ p'.calls = p.calls ++ cs ∧
      p'.script.setClaims = p.script.setClaims := by
  cases h with
  | found h₁ =>
    simp only [accountFor, exec_bind, exec_tryRequest, exec_lookupAccount, h₁, exec_pure]
    exact ⟨_, rfl, rfl, rfl⟩
  | lookupFailed h₁ hne =>
    simp only [accountFor, exec_bind, exec_tryRequest, exec_lookupAccount, h₁, exec_throw]
    exact ⟨_, rfl, rfl, rfl⟩
  | created h₁ hc hlog =>
    simp only [accountFor, exec_bind, exec_tryRequest, exec_lookupAccount, h₁, exec_createAccount,
      hc, exec_logAccount_of_none hlog, exec_pure]
    exact ⟨_, rfl, by simp, rfl⟩
  | createdUnlogged h₁ hc hlog =>
    simp only [accountFor, exec_bind, exec_tryRequest, exec_lookupAccount, h₁, exec_createAccount,
      hc, exec_logAccount_of_some hlog]
    exact ⟨_, rfl, by simp, rfl⟩
  | createFailed h₁ hc hne =>
    simp only [accountFor, exec_bind, exec_tryRequest, exec_lookupAccount, h₁, exec_createAccount,
      hc, exec_throw]
    exact ⟨_, rfl, by simp, rfl⟩
  | raced h₁ hc h₂ =>
    simp only [accountFor, exec_bind, exec_tryRequest, exec_lookupAccount, h₁, exec_createAccount,
      hc, Script.lookupAnswer_tail, h₂]
    exact ⟨_, rfl, by simp, rfl⟩
  | retryFailed h₁ hc h₂ =>
    simp only [accountFor, exec_bind, exec_tryRequest, exec_lookupAccount, h₁, exec_createAccount,
      hc, Script.lookupAnswer_tail, h₂]
    exact ⟨_, rfl, by simp, rfl⟩

theorem exists_accountOutcome (s : Script) (email pw dn : Value) :
    ∃ r cs, AccountOutcome s email pw dn r cs := by
  rcases h₁ : s.lookupAnswer 0 with e | a
  · by_cases hnf : e = .platform .userNotFound
    · subst hnf
      rcases hc : s.create with e' | a
      · by_cases hex : e' = .platform .emailExists
        · subst hex
          rcases h₂ : s.lookupAnswer 1 with e'' | a
          · exact ⟨_, _, .retryFailed h₁ hc h₂⟩
          · exact ⟨_, _, .raced h₁ hc h₂⟩
        · exact ⟨_, _, .createFailed h₁ hc hex⟩
      · rcases hlog : logFault a.uid email with _ | m
        · exact ⟨_, _, .created h₁ hc hlog⟩
        · exact ⟨_, _, .createdUnlogged h₁ hc hlog⟩
    · exact ⟨_, _, .lookupFailed h₁ hnf⟩
  · exact ⟨_, _, .found h₁⟩

/-! ## Granting the role -/

/-- What provisioning does once it has the account: read its claims, set them with `role` made
`admin` unless they already hold it, log the change, and answer the uid. -/
def grantAdmin (a : Account) (email : Value) : PlatformM Value := do
  let claims ← claimsOf a
  if !hasAdminClaim claims then
    setAccountClaims a.uid (Value.setMember claims "role" (.str (Text.ofString "admin")))
    logAccount a.uid email
  return a.uid

theorem provisionAdmin_eq_grant (pid : Option Text) (email pw dn : Value) :
    provisionAdmin pid email pw dn =
      (request (.start pid) >>= fun _ => accountFor email pw dn >>= fun a => grantAdmin a email) :=
  rfl

section Grant

variable {a : Account} {email : Value} {claims : List (String × Value)} {p : Platform}

theorem exec_grantAdmin_unreadable {e : MappingError} (hm : a.claimMap = .error e) :
    (grantAdmin a email).exec p = (.error (mappingFault e), p) := by
  simp only [grantAdmin, exec_bind, exec_claimsOf_of_error hm]

theorem exec_grantAdmin_held (hm : a.claimMap = .ok claims)
    (hadmin : hasAdminClaim claims = true) : (grantAdmin a email).exec p = (.ok a.uid, p) := by
  simp only [grantAdmin, exec_bind, exec_claimsOf_of_ok hm, hadmin, Bool.not_true,
    Bool.false_eq_true, if_false, exec_pure]

theorem exec_grantAdmin_set (hm : a.claimMap = .ok claims)
    (hadmin : hasAdminClaim claims = false) : (grantAdmin a email).exec p =
      (setAccountClaims a.uid (Value.setMember claims "role" (.str (Text.ofString "admin"))) >>=
        fun _ => logAccount a.uid email >>= fun _ => pure a.uid).exec p := by
  simp only [grantAdmin, exec_bind, exec_claimsOf_of_ok hm, hadmin, Bool.not_false, if_true]

theorem exec_grantAdmin_refused {e : PlatformFault} (hm : a.claimMap = .ok claims)
    (hadmin : hasAdminClaim claims = false) (hset : p.script.setClaims = .error e) :
    (grantAdmin a email).exec p =
      (.error e, { p with calls := p.calls ++
        [.setClaims a.uid (Value.setMember claims "role" (.str (Text.ofString "admin")))] }) := by
  rw [exec_grantAdmin_set hm hadmin]
  simp only [exec_bind, exec_setAccountClaims, hset]

theorem exec_grantAdmin_granted (hm : a.claimMap = .ok claims)
    (hadmin : hasAdminClaim claims = false) (hset : p.script.setClaims = .ok ())
    (hlog : logFault a.uid email = none) :
    (grantAdmin a email).exec p =
      (.ok a.uid, { p with calls := p.calls ++
        [.setClaims a.uid (Value.setMember claims "role" (.str (Text.ofString "admin")))] }) := by
  rw [exec_grantAdmin_set hm hadmin]
  simp only [exec_bind, exec_setAccountClaims, hset, exec_logAccount_of_none hlog, exec_pure]

theorem exec_grantAdmin_unlogged {m : Misuse} (hm : a.claimMap = .ok claims)
    (hadmin : hasAdminClaim claims = false) (hset : p.script.setClaims = .ok ())
    (hlog : logFault a.uid email = some m) :
    (grantAdmin a email).exec p =
      (.error (.misuse m), { p with calls := p.calls ++
        [.setClaims a.uid (Value.setMember claims "role" (.str (Text.ofString "admin")))] }) := by
  rw [exec_grantAdmin_set hm hadmin]
  simp only [exec_bind, exec_setAccountClaims, hset, exec_logAccount_of_some hlog]

theorem grantAdmin_ok {v : Value} (h : ((grantAdmin a email).exec p).1 = .ok v) : v = a.uid := by
  rcases hm : a.claimMap with e | claims
  · rw [exec_grantAdmin_unreadable hm] at h
    cases h
  cases hadmin : hasAdminClaim claims
  · rcases hset : p.script.setClaims with e | ⟨⟩
    · rw [exec_grantAdmin_refused hm hadmin hset] at h
      cases h
    rcases hlog : logFault a.uid email with _ | m
    · rw [exec_grantAdmin_granted hm hadmin hset hlog] at h
      cases h
      rfl
    · rw [exec_grantAdmin_unlogged hm hadmin hset hlog] at h
      cases h
  · rw [exec_grantAdmin_held hm hadmin] at h
    cases h
    rfl

theorem grantAdmin_calls (hm : a.claimMap = .ok claims) :
    ((grantAdmin a email).exec p).2.calls = p.calls ++
      (if hasAdminClaim claims then [] else
        [.setClaims a.uid (Value.setMember claims "role" (.str (Text.ofString "admin")))]) := by
  cases hadmin : hasAdminClaim claims
  · rcases hset : p.script.setClaims with e | ⟨⟩
    · rw [exec_grantAdmin_refused hm hadmin hset]
      rfl
    rcases hlog : logFault a.uid email with _ | m
    · rw [exec_grantAdmin_granted hm hadmin hset hlog]
      rfl
    · rw [exec_grantAdmin_unlogged hm hadmin hset hlog]
      rfl
  · rw [exec_grantAdmin_held hm hadmin, if_pos rfl, List.append_nil]

end Grant

/-! ## Whole runs -/

theorem provisionAdminOn_eq (s : Script) (pid : Option Text) (email pw dn : Value) :
    provisionAdminOn s pid email pw dn =
      (((provisionAdmin pid email pw dn).exec { script := s }).1.mapError PlatformFault.toFault,
        ((provisionAdmin pid email pw dn).exec { script := s }).2.calls) := rfl

theorem mapError_eq_ok {ε ε' α : Type} {x : Except ε α} {f : ε → ε'} {a : α} :
    x.mapError f = .ok a ↔ x = .ok a := by
  cases x with
  | error e => exact Iff.intro (fun h => by cases h) (fun h => by cases h)
  | ok b => exact Iff.intro (fun h => by cases h; rfl) (fun h => by cases h; rfl)

section Provisioning

variable {s : Script} (pid : Option Text) {email pw dn : Value} {cs : List PlatformCall}

theorem provisionAdminOn_of_fault {e : PlatformFault}
    (h : AccountOutcome s email pw dn (.error e) cs) :
    provisionAdminOn s pid email pw dn = (.error e.toFault, .start pid :: cs) := by
  obtain ⟨p', hrun, hcalls, -⟩ := accountFor_exec { script := s, calls := [.start pid] } h
  have hexec : (provisionAdmin pid email pw dn).exec { script := s } = (.error e, p') := by
    simp only [provisionAdmin_eq_grant, exec_bind, exec_request, List.nil_append]
    rw [hrun]
  rw [provisionAdminOn_eq, hexec, hcalls]
  rfl

theorem provisionAdminOn_of_account {a : Account}
    (h : AccountOutcome s email pw dn (.ok a) cs) :
    ∃ p', p'.calls = .start pid :: cs ∧ p'.script.setClaims = s.setClaims ∧
      provisionAdminOn s pid email pw dn =
        (((grantAdmin a email).exec p').1.mapError PlatformFault.toFault,
          ((grantAdmin a email).exec p').2.calls) := by
  obtain ⟨p', hrun, hcalls, hsc⟩ := accountFor_exec { script := s, calls := [.start pid] } h
  have hexec : (provisionAdmin pid email pw dn).exec { script := s } =
      (grantAdmin a email).exec p' := by
    simp only [provisionAdmin_eq_grant, exec_bind, exec_request, List.nil_append]
    rw [hrun]
  exact ⟨p', hcalls, hsc, by rw [provisionAdminOn_eq, hexec]⟩

end Provisioning

/-- Provisioning the administrator, for every script of platform answers. The lookups and the
creation end in one of the ways `AccountOutcome` lists, and any uid answered is the uid of the
account they settle on. On that account, with claims that read as a mapping `C`, claims are set
exactly when `C` does not make it an administrator, with `role` made `admin` and every other key
kept; provisioning answers its uid when the role is held, or is set and logged. A fault of the
lookups, the creation or setting claims ends provisioning with no request after it: a platform
error becomes the provider's failure, while a refused request keeps its message and a misuse
stays itself. -/
theorem provisionAdmin_grants_role (s : Script) (pid : Option Text) (email pw dn : Value) :
    (∃ r cs, AccountOutcome s email pw dn r cs) ∧
    (∀ v, (provisionAdminOn s pid email pw dn).1 = .ok v →
      ∃ a cs, AccountOutcome s email pw dn (.ok a) cs ∧ v = a.uid) ∧
    (∀ a cs C, AccountOutcome s email pw dn (.ok a) cs → a.claimMap = .ok C →
      ((hasAdminClaim C = true ∨ s.setClaims = .ok () ∧ logFault a.uid email = none) →
        (provisionAdminOn s pid email pw dn).1 = .ok a.uid) ∧
      (provisionAdminOn s pid email pw dn).2 = .start pid :: cs ++
        (if hasAdminClaim C then [] else
          [.setClaims a.uid (Value.setMember C "role" (.str (Text.ofString "admin")))]) ∧
      (hasAdminClaim C = true ↔ C.lookup "role" = some (.str (Text.ofString "admin"))) ∧
      (Value.setMember C "role" (.str (Text.ofString "admin"))).lookup "role" =
        some (.str (Text.ofString "admin")) ∧
      (∀ k, k ≠ "role" →
        (Value.setMember C "role" (.str (Text.ofString "admin"))).lookup k = C.lookup k) ∧
      (∀ e, hasAdminClaim C = false → s.setClaims = .error e →
        provisionAdminOn s pid email pw dn = (.error e.toFault, .start pid :: cs ++
          [.setClaims a.uid (Value.setMember C "role" (.str (Text.ofString "admin")))]))) ∧
    (∀ e cs, AccountOutcome s email pw dn (.error e) cs →
      provisionAdminOn s pid email pw dn = (.error e.toFault, .start pid :: cs)) ∧
    (∀ e : PlatformError, (PlatformFault.platform e).toFault =
      .providerFailed (Text.ofString "Identity provider admin operation failed")) ∧
    (∀ m : Text, (PlatformFault.refused m).toFault = .requestRefused m) ∧
    (∀ m : Misuse, (PlatformFault.misuse m).toFault = .misuse m) := by
  refine ⟨exists_accountOutcome s email pw dn, ?answer, ?account,
    fun e cs h => provisionAdminOn_of_fault pid h, fun e => rfl,
    fun m => rfl, fun m => rfl⟩
  case answer =>
    intro v hv
    obtain ⟨r, cs, hout⟩ := exists_accountOutcome s email pw dn
    cases r with
    | error e =>
      rw [provisionAdminOn_of_fault pid hout] at hv
      cases hv
    | ok a =>
      obtain ⟨p', -, -, hrun⟩ := provisionAdminOn_of_account pid hout
      rw [hrun] at hv
      exact ⟨a, cs, hout, grantAdmin_ok (mapError_eq_ok.mp hv)⟩
  case account =>
    intro a cs C hout hm
    obtain ⟨p', hcalls, hsc, hrun⟩ := provisionAdminOn_of_account pid hout
    refine ⟨?success, ?requests, hasAdminClaim_iff C, Value.lookup_setMember_self C "role" _,
      fun k hk => Value.lookup_setMember_ne C _ hk, ?refusal⟩
    case success =>
      rintro (hadmin | ⟨hset, hlog⟩)
      · rw [hrun, exec_grantAdmin_held hm hadmin]
        rfl
      · cases hadmin : hasAdminClaim C
        · rw [hrun, exec_grantAdmin_granted hm hadmin (hsc.trans hset) hlog]
          rfl
        · rw [hrun, exec_grantAdmin_held hm hadmin]
          rfl
    case requests =>
      rw [hrun, grantAdmin_calls hm, hcalls]
    case refusal =>
      intro e hadmin hset
      rw [hrun, exec_grantAdmin_refused hm hadmin (hsc.trans hset), hcalls]
      rfl

/-- An account found at once, whose claims lack the role: the role is added beside its other
claims, and its uid is answered. -/
theorem provisionAdmin_grants_role_found :
    provisionAdminOn
        { lookups := [.ok { uid := .str (Text.ofString "uid-1")
                            claims := .obj [("tier", .str (Text.ofString "gold"))] }] }
        none (.str (Text.ofString "admin@example.com")) (.str (Text.ofString "pw"))
        (.str (Text.ofString "Admin")) =
      (.ok (.str (Text.ofString "uid-1")),
        [.start none, .lookup (.str (Text.ofString "admin@example.com")),
          .setClaims (.str (Text.ofString "uid-1"))
            [("tier", .str (Text.ofString "gold")), ("role", .str (Text.ofString "admin"))]]) := by
  have h := (provisionAdmin_grants_role
    { lookups := [.ok { uid := .str (Text.ofString "uid-1")
                        claims := .obj [("tier", .str (Text.ofString "gold"))] }] }
    none (.str (Text.ofString "admin@example.com")) (.str (Text.ofString "pw"))
    (.str (Text.ofString "Admin"))).2.2.1 _ _ _ (.found rfl) rfl
  exact Prod.ext (h.1 (.inr ⟨rfl, by decide⟩)) h.2.1

/-- Every platform request can succeed and provisioning still fail: a uid that is no text in
UTF-8 cannot be logged once its claims are set, and the misuse ends provisioning. -/
theorem provisionAdmin_unloggable_uid :
    ∃ m : Misuse, provisionAdminOn { lookups := [.ok { uid := .str ⟨[.surrogate 0]⟩ }] } none
        (.str (Text.ofString "admin@example.com")) (.str (Text.ofString "pw"))
        (.str (Text.ofString "Admin")) =
      (.error (.misuse m),
        [.start none, .lookup (.str (Text.ofString "admin@example.com")),
          .setClaims (.str ⟨[.surrogate 0]⟩) [("role", .str (Text.ofString "admin"))]]) :=
  ⟨_, rfl⟩

end UserDirectory.Token
