import UserDirectory.Proofs.Seeding

/-!
# What a failed seeding leaves behind

Seeding the administrator can stop with a fault at many places: a configuration value that is no
text, a refused email, a failed read of the store, a failed provider, a refused administrator
profile, a clash or a failed write. Wherever it stopped, no stored profile changed
(`SeedFault.records`): the add of the administrator is the only write, and an add that fails
writes nothing.

A refused value is not always refused before the identity provider is asked. The email is checked
first, and a refused email leaves the provider as it was. The display name (at most 200 characters
once stripped), the email checked once more and the provider's uid as external id are checked
only as the administrator profile is made, after the provider was asked: the call is counted and
the identity under the email's key carries the administrator claim (`seeding_fault_effects`).
An accepted email with a display name of 201 characters shows it
(`seeding_refuses_name_after_provider`).

How a seeding that passed its checks stopped is read off once (`SeedStop`, `seedChecked_stop`),
in the style of `SeedRun`; the two facts above are then one case split each.
-/

namespace UserDirectory.Account

open Act

variable {w w₁ : World} {f : Fault}

/-! ## The identity provider -/

theorem ensureAdmin_counted {email password name : Given} {key : Text} {r : Except Fault String}
    (hk : providerKey email = .ok key) (h : (ensureAdmin email password name).exec w = (r, w₁)) :
    w₁.provider.ensureCalls = w.provider.ensureCalls + 1 := by
  cases hf : w.provider.failure with
  | some m =>
    rw [exec_ensureAdmin_armed hf] at h
    cases h
    rfl
  | none =>
    rw [exec_ensureAdmin hf hk] at h
    cases hl : w.provider.identities.lookup key with
    | some i =>
      rw [hl] at h
      cases h
      rfl
    | none =>
      rw [hl] at h
      have hw := freshId_world w.ensureCounted
      rcases hu : freshId.exec w.ensureCounted with ⟨_ | u, w'⟩ <;> rw [hu] at h hw <;>
        cases h <;> subst hw <;> rfl

theorem ensureAdmin_fault {email password name : Given} {key : Text} (hv : w.ids.Valid)
    (hk : providerKey email = .ok key)
    (h : (ensureAdmin email password name).exec w = (.error f, w₁)) :
    ∃ m, f = .providerFailed m := by
  cases hf : w.provider.failure with
  | some m =>
    rw [exec_ensureAdmin_armed hf] at h
    cases h
    exact ⟨m, rfl⟩
  | none =>
    rw [exec_ensureAdmin hf hk] at h
    cases hl : w.provider.identities.lookup key with
    | some i =>
      rw [hl] at h
      cases h
    | none =>
      rw [hl] at h
      obtain ⟨u, hu⟩ := freshId_ok_of_valid (w := w.ensureCounted) hv
      rcases hx : freshId.exec w.ensureCounted with ⟨_ | u', w'⟩ <;> rw [hx] at h hu
      · cases hu
      · cases h

/-! ## How a seeding stops -/

/-- How a seeding that passed its checks stopped with a fault. -/
inductive SeedStop [V : Mail.AddressValidator] (m : String) (pw name : Given)
    (w : World) : Fault → World → Prop
  /-- reading the store failed -/
  | read {msg : Text} (hr : w.store.readFailure = some msg) :
      SeedStop m pw name w (.storeFailed msg)
        { w with store := { w.store with readFailure := none } }
  /-- the provider stopped, whether a live profile has the email or not -/
  | ensure {f : Fault} {w₁ : World} (hr : w.store.readFailure = none)
      (he : (ensureAdmin (.ofString m) pw name).exec w = (.error f, w₁)) :
      SeedStop m pw name w f w₁
  /-- no live profile has the email, the provider answered, and making the administrator
  profile stopped -/
  | make {uid : String} {f : Fault} {w' w₁ : World} (hr : w.store.readFailure = none)
      (hnone : emailTarget w.store m = none)
      (he : (ensureAdmin (.ofString m) pw name).exec w = (.ok uid, w'))
      (hc : (createProfile (.ofString m) name (.ofString uid) .admin).exec w' = (.error f, w₁)) :
      SeedStop m pw name w f w₁
  /-- the administrator profile was made, and adding it failed -/
  | add {uid : String} {w' w'' : World} {admin : Profile} {e : StoreError} {s : Store}
      (hr : w.store.readFailure = none) (hnone : emailTarget w.store m = none)
      (he : (ensureAdmin (.ofString m) pw name).exec w = (.ok uid, w'))
      (hc : (createProfile (.ofString m) name (.ofString uid) .admin).exec w' = (.ok admin, w''))
      (ha : Store.add admin w''.store = (.error e, s)) :
      SeedStop m pw name w e.toFault { w'' with store := s }

theorem seedChecked_stop [V : Mail.AddressValidator] {m : String} {pw name : Given}
    (h : (seedChecked m pw name).exec w = (.error f, w₁)) : SeedStop m pw name w f w₁ := by
  unfold seedChecked at h
  cases hr : w.store.readFailure with
  | some msg =>
    simp only [exec_bind, exec_liftStore, Store.getByEmail, Store.reading_of_some _ hr] at h
    cases h
    exact .read hr
  | none =>
    simp only [exec_bind, Store.getByEmail, exec_liftStore_reading _ hr] at h
    cases ht : emailTarget w.store m with
    | some p =>
      unfold emailTarget at ht
      simp only [ht, exec_bind, exec_pure] at h
      rcases he : (ensureAdmin (.ofString m) pw name).exec w with ⟨_ | uid, w'⟩ <;> rw [he] at h
      · cases h
        exact .ensure hr he
      · cases h
    | none =>
      have hnone := ht
      unfold emailTarget at ht
      simp only [ht, exec_bind, exec_pure] at h
      rcases he : (ensureAdmin (.ofString m) pw name).exec w with ⟨_ | uid, w'⟩ <;> rw [he] at h
      · cases h
        exact .ensure hr he
      dsimp only at h
      rcases hc : (createProfile (.ofString m) name (.ofString uid) .admin).exec w' with
        ⟨_ | admin, w''⟩ <;> rw [hc] at h
      · cases h
        exact .make hr hnone he hc
      simp only [exec_liftStore] at h
      rcases ha : Store.add admin w''.store with ⟨_ | created, s⟩ <;> rw [ha] at h
      · cases h
        exact .add hr hnone he hc ha
      · simp only [exec_notify] at h
        cases h

theorem Store.profiles_of_add_error {p : Profile} {s s' : Store} {e : StoreError}
    (h : Store.add p s = (.error e, s')) : s'.profiles = s.profiles := by
  cases hw : s.writeFailure with
  | some m =>
    rw [Store.add_armed _ hw] at h
    cases h
    rfl
  | none =>
    cases hc : Store.clashOf s.profiles p with
    | some c =>
      rw [Store.add_clash hw hc] at h
      cases h
      rfl
    | none =>
      rw [Store.add_fresh hw hc] at h
      cases h

namespace SeedStop

variable {m : String} {pw name : Given}

theorem records [V : Mail.AddressValidator]
    (h : SeedStop m pw name w f w₁) : w₁.store.profiles = w.store.profiles := by
  cases h with
  | read hr => rfl
  | ensure hr he =>
    have hs := frames_ensureAdmin (R := (· = ·)) (.ofString m) pw name w
    rw [he] at hs
    rw [← hs]
  | make hr hnone he hc =>
    rw [createProfile_world_of hc, (ensureAdmin_ensured (providerKey_ofString m) he).store]
  | add hr hnone he hc ha =>
    show _ = _
    rw [Store.profiles_of_add_error ha, createProfile_world_of hc,
      (ensureAdmin_ensured (providerKey_ofString m) he).store]

theorem refused [V : Mail.AddressValidator] (hv : w.ids.Valid) (h : SeedStop m pw name w f w₁)
    {msg : String}
    (hf : f = .invalid msg) :
    emailTarget w.store m = none ∧ ∃ uid w', (ensureAdmin (.ofString m) pw name).exec w =
      (.ok uid, w') ∧ w₁.provider = w'.provider := by
  cases h with
  | read hr => cases hf
  | ensure hr he =>
    obtain ⟨t, rfl⟩ := ensureAdmin_fault hv (providerKey_ofString m) he
    cases hf
  | make hr hnone he hc =>
    exact ⟨hnone, _, _, he, by rw [createProfile_world_of hc]⟩
  | add hr hnone he hc ha =>
    rename_i e _
    cases e <;> cases hf

end SeedStop

theorem seedAdmin_fault [V : Mail.AddressValidator] {c : SeedConfig}
    (h : (seedAdmin c).exec w = (.error f, w₁)) :
    (w₁ = w ∧ ∀ msg, f = .invalid msg → ∃ e, normalizeEmailField c.email = .error e) ∨
    ∃ m t pw, normalizeEmailField c.email = .ok m ∧ givenText c.displayName = .ok t ∧
      (seedChecked m pw (.text t.strip)).exec w = (.error f, w₁) := by
  rcases seedAdmin_cases c with ⟨r, hr, rfl | ⟨f', rfl, hf⟩⟩ | ⟨m, t, hm, ht, heq⟩
  · rw [hr w] at h
    cases h
  · rw [hr w] at h
    obtain ⟨hff, rfl⟩ := Prod.mk.inj h
    cases hff
    exact .inl ⟨rfl, hf⟩
  · rw [heq] at h
    exact .inr ⟨m, t, _, hm, ht, h⟩

/-! ## What a failed seeding leaves behind -/

/-- What a seeding that stopped with the fault `f`, from `w` to `w₁`, left behind. -/
structure SeedFault [V : Mail.AddressValidator] (c : SeedConfig) (w : World) (f : Fault)
    (w₁ : World) : Prop where
  /-- no stored profile changed -/
  records : w₁.store.profiles = w.store.profiles
  /-- a value refused at the email was refused before the provider was asked; one refused later
  was refused as the administrator profile was made, after the provider counted the call and
  settled the identity under the email's key with the administrator claim -/
  refused : ∀ msg, f = .invalid msg →
    (w₁.provider = w.provider ∧ ∃ e, normalizeEmailField c.email = .error e) ∨
    ∃ m, normalizeEmailField c.email = .ok m ∧ emailTarget w.store m = none ∧
      w₁.provider.ensureCalls = w.provider.ensureCalls + 1 ∧
      ∃ i, Settled w₁.provider.identities (Text.ofString m).strip.lower i

/-- Every seeding that stops with a fault, from a world whose supply hands out identifiers, leaves
the stored profiles as they were, and refuses a value either at the email, before the provider is
asked, or after the provider settled the administrator identity. -/
theorem seeding_fault_effects [V : Mail.AddressValidator] {c : SeedConfig} (hv : w.ids.Valid)
    (h : (seedAdmin c).exec w = (.error f, w₁)) : SeedFault c w f w₁ := by
  rcases seedAdmin_fault h with ⟨rfl, hchecks⟩ | ⟨m, t, pw, he, -, hrun⟩
  · exact ⟨rfl, fun msg hm => .inl ⟨rfl, hchecks msg hm⟩⟩
  have hs := seedChecked_stop hrun
  refine ⟨hs.records, fun msg hm => .inr ?_⟩
  obtain ⟨hnone, uid, w', hens, hprov⟩ := hs.refused hv hm
  obtain ⟨-, -, -, ⟨i, hi, -⟩, -⟩ := ensureAdmin_ensured (providerKey_ofString m) hens
  refine ⟨m, he, hnone, ?_, i, ?_⟩
  · rw [hprov]
    exact ensureAdmin_counted (providerKey_ofString m) hens
  · rw [hprov]
    exact hi

/-- Two seedings that stop with a fault: one whose email is no address stops at the email, before
the provider is asked; one whose display name has 201 characters stops after the provider settled
the administrator identity. -/
theorem seeding_fault_effects_refusals :
    letI := Session.emailValidator
    let w := Session.initialWorld []
    let bad : SeedConfig :=
      { enabled := true, email := .ofString "admin", password := .ofString "pw",
        displayName := .ofString "Admin" }
    let long : SeedConfig :=
      { enabled := true, email := .ofString "admin@example.com", password := .ofString "pw",
        displayName := .ofString (String.ofList (List.replicate 201 'A')) }
    w.ids.Valid ∧
      (seedAdmin bad).exec w = (.error (.invalid "Email is not a valid address"), w) ∧
      SeedFault bad w (.invalid "Email is not a valid address") w ∧
      ∃ w₁, (seedAdmin long).exec w =
          (.error (.invalid "Display name must be at most 200 characters"), w₁) ∧
        SeedFault long w (.invalid "Display name must be at most 200 characters") w₁ := by
  intro w bad long
  have hv : w.ids.Valid := IdSupply.valid_of_presets rfl
  have hbad : (seedAdmin (V := Session.emailValidator) bad).exec w =
      (.error (.invalid "Email is not a valid address"), w) := by
    decide +kernel
  have hlong₁ : ((seedAdmin (V := Session.emailValidator) long).exec w).1 =
      .error (.invalid "Display name must be at most 200 characters") := by
    decide +kernel
  have hlong : (seedAdmin (V := Session.emailValidator) long).exec w =
      (.error (.invalid "Display name must be at most 200 characters"),
        ((seedAdmin (V := Session.emailValidator) long).exec w).2) := by
    rw [← hlong₁]
  exact ⟨hv, hbad, seeding_fault_effects (V := Session.emailValidator) hv hbad, _, hlong,
    seeding_fault_effects (V := Session.emailValidator) hv hlong⟩

/-- A display name of 201 characters is refused only after the provider was asked: seeding an
accepted email from an empty directory stops with the refusal, and the provider has counted the
call. -/
theorem seeding_refuses_name_after_provider :
    letI := Session.emailValidator
    let c : SeedConfig :=
      { enabled := true, email := .ofString "admin@example.com", password := .ofString "pw",
        displayName := .ofString (String.ofList (List.replicate 201 'A')) }
    let r := (seedAdmin c).exec (Session.initialWorld [])
    (r.1 matches .error (.invalid "Display name must be at most 200 characters")) ∧
      r.2.provider.ensureCalls = 1 := by
  decide +kernel

end UserDirectory.Account
