import UserDirectory.Proofs.Frame
import UserDirectory.Proofs.Enumeration

/-!
# How an operation of the directory ends

A run of an operation of the directory ends in one of five ways (`Ending`):

* the input is refused, before the store is touched at all;
* an armed failure of the store went off: the outcome is the infrastructure failure, and the
  consumed failure is the only change to the store (`Store.Fired`);
* another failure (not found, a clash, no caller), with the store as it was;
* a fault stops the operation, again before the store is touched. That needs a value of another
  kind where a string or nothing is expected, or a supply of identifiers that hands out no
  identifier;
* success, with what the operation wrote.

One lemma per operation says which, from any world (`ends_userById` and its kin). A read that
succeeds writes nothing and answers a live stored profile (`Answered`). Renaming and deleting
put the renamed or deleted live profile in its place and count the write (`Renamed`,
`Deleted`); creating adds the new profile and counts it (`Added`).
-/

namespace UserDirectory

/-- A string or nothing: the values the operations' text parameters are declared to take. -/
def Given.textOrNone : Given → Bool
  | .text _ => true
  | .none => true
  | .other .. => false

end UserDirectory

namespace UserDirectory.Account

open Act

/-! ## Refusals -/

theorem FieldError.toFault_of_refuses {e : FieldError} (h : e.refuses = true) :
    e.toFault = .invalid e.message := by
  unfold FieldError.toFault
  split
  · cases h
  · rfl

theorem parseUserId_refuses {t : Given} {e : FieldError} (h : parseUserId t = .error e) :
    e.refuses = true := by
  unfold parseUserId at h
  dsimp only at h
  split at h
  · cases h
    rfl
  · split at h
    · cases h
    · cases h
      rfl

theorem orEmpty_of_textOrNone {g : Given} (h : g.textOrNone = true) : ∃ t, g.orEmpty = .ok t := by
  cases g with
  | text t => exact ⟨t, rfl⟩
  | none => exact ⟨Text.empty, rfl⟩
  | other => cases h

theorem givenText_of_textOrNone {g : Given} (h : g.textOrNone = true) :
    ∃ t, givenText g = .ok t := by
  obtain ⟨t, ht⟩ := orEmpty_of_textOrNone h
  exact ⟨t, by rw [givenText, ht]; rfl⟩

theorem boundedField_refuses {missing tooLong : FieldError} {limit : Nat} {g : Given}
    {e : FieldError} (hm : missing.refuses = true) (hl : tooLong.refuses = true)
    (hg : g.textOrNone = true) (h : boundedField missing tooLong limit g = .error e) :
    e.refuses = true := by
  obtain ⟨t, ht⟩ := givenText_of_textOrNone hg
  simp only [boundedField, ht, bind, Except.bind] at h
  split at h
  · cases h
    exact hm
  · split at h
    · cases h
      exact hl
    · cases h

theorem boundedField_ok {missing tooLong : FieldError} {limit : Nat} {g : Given} {t : Text}
    (h : boundedField missing tooLong limit g = .ok t) :
    ∃ t₀, g = .text t₀ ∧ t = t₀.strip := by
  cases g with
  | text t₀ =>
    simp only [boundedField, givenText, Given.orEmpty, Except.mapError, bind, Except.bind] at h
    split at h
    · cases h
    · split at h
      · cases h
      · cases h
        exact ⟨t₀, rfl, rfl⟩
  | none => cases h
  | other k present shown =>
    cases present <;> cases h

theorem normalizeDisplayName_refuses {g : Given} {e : FieldError} (hg : g.textOrNone = true)
    (h : normalizeDisplayName g = .error e) : e.refuses = true :=
  boundedField_refuses rfl rfl hg h

theorem normalizeExternalId_refuses {g : Given} {e : FieldError} (hg : g.textOrNone = true)
    (h : normalizeExternalId g = .error e) : e.refuses = true :=
  boundedField_refuses rfl rfl hg h

theorem normalizeEmailField_refuses [V : Mail.AddressValidator] {g : Given} {e : FieldError}
    (hg : g.textOrNone = true)
    (h : normalizeEmailField g = .error e) : e.refuses = true := by
  obtain ⟨t, ht⟩ := givenText_of_textOrNone hg
  simp only [normalizeEmailField, ht, bind, Except.bind] at h
  split at h
  · cases h
    rfl
  · split at h
    · cases h
    · cases h
      rfl
    · cases h
      rfl

theorem textOrNone_of_misuse {g : Given} {e : FieldError} (hre : ¬ e.refuses = true)
    (hrefuse : g.textOrNone = true → e.refuses = true) : g.textOrNone = false :=
  Bool.eq_false_iff.mpr fun hg => hre (hrefuse hg)

/-! ## Failures of the store -/

/-- An armed failure of the store went off: it is consumed, and nothing else of the store
changed. -/
def Store.Fired (s s' : Store) : Prop :=
  (s.readFailure.isSome ∧ s' = { s with readFailure := none }) ∨
    (s.writeFailure.isSome ∧ s' = { s with writeFailure := none })

namespace Store

variable {s : Store} {m : Text}

theorem fired_read (h : s.readFailure = some m) : s.Fired { s with readFailure := none } :=
  .inl ⟨by rw [h]; rfl, rfl⟩

theorem fired_write (h : s.writeFailure = some m) : s.Fired { s with writeFailure := none } :=
  .inr ⟨by rw [h]; rfl, rfl⟩

theorem update_armed (p : Profile) (h : s.writeFailure = some m) :
    update p s = (.error (.failed m), { s with writeFailure := none }) := by
  simp [update, beginWrite, h]

theorem softDelete_armed (id : String) (now : Instant) (h : s.writeFailure = some m) :
    softDelete id now s = (.error (.failed m), { s with writeFailure := none }) := by
  simp [softDelete, beginWrite, h]

theorem add_armed (p : Profile) (h : s.writeFailure = some m) :
    add p s = (.error (.failed m), { s with writeFailure := none }) := by
  simp [add, beginWrite, h]

end Store

/-! ## Endings -/

/-- How a run of an operation ends, by its result and the store after it, from the store `s`. A
fault needs `mayFault`; success says what it did to the store by `done`. -/
inductive Ending {α : Type} (mayFault : Prop) (done : α → Store → Store → Prop)
    (s : Store) :
    Except Fault (Outcome α) → Store → Prop
  /-- the input is refused before the store is touched -/
  | refused (m : String) : Ending mayFault done s (.ok (.error (.validation m))) s
  /-- an armed failure went off, and the outcome is the infrastructure failure -/
  | fired {s' : Store} : s.Fired s' → Ending mayFault done s (.ok (.error .infrastructure)) s'
  /-- any other failure, with the store as it was -/
  | failed (f : Failure) : f.kind ≠ .validation → f.kind ≠ .infrastructure →
      Ending mayFault done s (.ok (.error f)) s
  /-- a fault stops the operation before the store is touched -/
  | faulted (e : Fault) : mayFault → Ending mayFault done s (.error e) s
  /-- success, and what it did to the store -/
  | succeeded (a : α) {s' : Store} : done a s s' → Ending mayFault done s (.ok (.ok a)) s'

/-- How the run of `x` from `w` ends. -/
def Act.Ends {α : Type} (mayFault : Prop) (done : α → Store → Store → Prop)
    (x : Act (Outcome α)) (w : World) : Prop :=
  Ending mayFault done w.store (x.exec w).1 (x.exec w).2.store

/-- A success that wrote nothing. -/
def Unwritten {α : Type} (_ : α) (s s' : Store) : Prop := s' = s

/-- A read that answered `p`: it wrote nothing, and `p` is a live stored profile. -/
def Answered (p : Profile) (s s' : Store) : Prop :=
  s' = s ∧ p ∈ s.profiles ∧ p.deleted = false

/-- A rename of `t` to `n` at `now` that answered `p`: the id is accepted and the name is a text,
`p` is the live profile with the id, renamed to that text stripped, and it is put in that
profile's place and counted. -/
def Renamed (t n : Given) (now : Instant) (p : Profile) (s s' : Store) : Prop :=
  ∃ id name r, parseUserId t = .ok id ∧ n = .text name ∧
    s.find? id = some r ∧ r.deleted = false ∧ p = r.rename name.strip now ∧
    s' = { s with profiles := Store.put s.profiles p, updates := s.updates + 1 }

/-- A deletion of `t` at `now` that answered `p`: the id is accepted, `p` is the live profile with
the id marked deleted, and it is put in that profile's place and counted. -/
def Deleted (t : Given) (now : Instant) (p : Profile) (s s' : Store) : Prop :=
  ∃ id r, parseUserId t = .ok id ∧ s.find? id = some r ∧ r.deleted = false ∧
    p = r.markDeleted now ∧
    s' = { s with profiles := Store.put s.profiles p, softDeletes := s.softDeletes + 1 }

/-! ## Steps of the operations -/

variable {w : World}

theorem exec_permit_cases (p : Profile) (caller : Option Caller) (action : String)
    (hr : w.store.readFailure = none) :
    (permit p caller action).exec w = (.ok (.ok p), w) ∨
      ∃ w', (permit p caller action).exec w = (.ok (.error .notFound), w') ∧
        w'.store = w.store := by
  cases caller with
  | none => exact .inl (exec_permit_none p action)
  | some c =>
    rcases exec_permit (c := c) p action hr with ⟨_, he⟩ | ⟨_, he⟩
    · exact .inl he
    · exact .inr ⟨_, he, rfl⟩

theorem exec_loadFor_found (id action : String) (caller : Option Caller)
    (hr : w.store.readFailure = none) :
    (∃ p, w.store.find? id = some p ∧ p.deleted = false ∧
        (loadFor id caller action).exec w = (.ok (.ok p), w)) ∨
      ∃ w', (loadFor id caller action).exec w = (.ok (.error .notFound), w') ∧
        w'.store = w.store := by
  rw [exec_loadFor id action caller hr]
  cases hf : (w.store.find? id).filter (·.visible false) with
  | none => exact .inr ⟨w, rfl, rfl⟩
  | some p =>
    obtain ⟨hp, hl⟩ := filter_visible_eq_some.mp hf
    rcases exec_permit_cases p caller action hr with he | he
    · exact .inl ⟨p, hp, hl, he⟩
    · exact .inr he

theorem exec_resolve_refused {x : Text} {e : FieldError}
    (hn : normalizeExternalId (.text x) = .error e) :
    (resolve (.text x)).exec w = (.ok (.error (.validation e.message)), w) := by
  unfold resolve
  rw [hn]
  simp [normalizeExternalId_text_refuses hn]

theorem exec_resolve_armed {x subject m : Text} (hn : normalizeExternalId (.text x) = .ok subject)
    (hr : w.store.readFailure = some m) :
    (resolve (.text x)).exec w =
      (.error (.storeFailed m), { w with store := { w.store with readFailure := none } }) := by
  unfold resolve
  rw [hn]
  simp [Store.getByExternalId, Store.reading_of_some _ hr]
  rfl

theorem resolution_error {s : Store} {x subject : Text} {f : Failure}
    (hn : normalizeExternalId (.text x) = .ok subject) (h : resolution s x = .error f) :
    f = .notFound := by
  unfold resolution at h
  rw [hn] at h
  dsimp only at h
  split at h
  · cases h
  · cases h
    rfl

theorem userById_refused {t : Given} {e : FieldError} (ht : parseUserId t = .error e)
    (caller : Option Caller) : userById t caller = pure (.error (.validation e.message)) := by
  unfold userById
  rw [ht, checkField_error, if_pos (parseUserId_refuses ht)]

theorem userByEmail_refused [V : Mail.AddressValidator] {e : Given} {f : FieldError}
    (hn : normalizeEmailField e = .error f)
    (caller : Option Caller) :
    userByEmail e caller =
      if f.refuses then pure (.error (.validation f.message)) else throw f.toFault := by
  unfold userByEmail
  rw [hn, checkField_error]

theorem exec_userByEmail_armed [V : Mail.AddressValidator] {e : Given} {n : String} {m : Text}
    (hn : normalizeEmailField e = .ok n) (caller : Option Caller)
    (hr : w.store.readFailure = some m) :
    (userByEmail e caller).exec w =
      (.ok (.error .infrastructure), { w with store := { w.store with readFailure := none } }) := by
  unfold userByEmail
  rw [hn, checkField_ok]
  simp [Store.getByEmail, Store.reading_of_some _ hr]

theorem renameUser_refused {t n : Given} {e : FieldError} (ht : parseUserId t = .error e)
    (caller : Option Caller) : renameUser t n caller = pure (.error (.validation e.message)) := by
  unfold renameUser
  rw [ht, checkField_error, if_pos (parseUserId_refuses ht)]

theorem deleteUser_refused {t : Given} {e : FieldError} (ht : parseUserId t = .error e)
    (caller : Option Caller) : deleteUser t caller = pure (.error (.validation e.message)) := by
  unfold deleteUser
  rw [ht, checkField_error, if_pos (parseUserId_refuses ht)]

theorem exec_renameUser_accepted {t n : Given} {target : String} {name : Text}
    (ht : parseUserId t = .ok target) (hn : normalizeDisplayName n = .ok name)
    (caller : Option Caller) (w : World) :
    (renameUser t n caller).exec w =
      match (loadFor target caller "rename").exec w with
      | (.error _, w₁) =>
        (.ok (.error .infrastructure),
          { w₁ with events := w₁.events ++ [.mk' .updateFailed (some target) .failure []] })
      | (.ok (.error f), w₁) => (.ok (.error f), w₁)
      | (.ok (.ok p), w₁) =>
        match Store.update (p.rename name w₁.clock) w₁.store with
        | (.error _, s) =>
          (.ok (.error .infrastructure), { w₁ with
            store := s, events := w₁.events ++ [.mk' .updateFailed (some target) .failure []] })
        | (.ok none, s) => (.ok (.error .notFound), { w₁ with store := s })
        | (.ok (some q), s) =>
          (.ok (.ok q), { w₁ with
            store := s
            events := w₁.events ++
              [.mk' .updated (some q.id) .success [("field", "display_name")]] }) := by
  unfold renameUser
  rw [ht, checkField_ok, hn, checkField_ok]
  simp only [bind_pure_comp, exec_bind, exec_attempt]
  rcases (loadFor target caller "rename").exec w with ⟨_ | _ | p, w₁⟩
  · rfl
  · rfl
  · simp only [exec_bind, exec_now, exec_map, exec_liftStore]
    rcases Store.update (p.rename name w₁.clock) w₁.store with ⟨_ | _ | q, s⟩ <;> rfl

theorem exec_deleteUser_accepted {t : Given} {target : String}
    (ht : parseUserId t = .ok target) (caller : Option Caller) (w : World) :
    (deleteUser t caller).exec w =
      match (loadFor target caller "delete").exec w with
      | (.error _, w₁) =>
        (.ok (.error .infrastructure),
          { w₁ with events := w₁.events ++ [.mk' .deleteFailed (some target) .failure []] })
      | (.ok (.error f), w₁) => (.ok (.error f), w₁)
      | (.ok (.ok _), w₁) =>
        match Store.softDelete target w₁.clock w₁.store with
        | (.error _, s) =>
          (.ok (.error .infrastructure), { w₁ with
            store := s, events := w₁.events ++ [.mk' .deleteFailed (some target) .failure []] })
        | (.ok none, s) => (.ok (.error .notFound), { w₁ with store := s })
        | (.ok (some q), s) =>
          (.ok (.ok q), { w₁ with
            store := s, events := w₁.events ++ [.mk' .deleted (some q.id) .success []] }) := by
  unfold deleteUser
  rw [ht, checkField_ok]
  simp only [bind_pure_comp, exec_bind, exec_attempt]
  rcases (loadFor target caller "delete").exec w with ⟨_ | _ | p, w₁⟩
  · rfl
  · rfl
  · simp only [exec_bind, exec_now, exec_map, exec_liftStore]
    rcases Store.softDelete target w₁.clock w₁.store with ⟨_ | _ | q, s⟩ <;> rfl

/-! ## Making a profile -/

/-- The supply hands out identifiers: every preset is a text that writes one. -/
def IdSupply.Valid (ids : IdSupply) : Prop :=
  ∀ g ∈ ids.presets, ∃ t u, g = .text t ∧ Ident.Uuid.ofText t = .ok u

theorem IdSupply.valid_of_presets {ids : IdSupply} (h : ids.presets = []) : ids.Valid := by
  intro g hg
  rw [h] at hg
  cases hg

theorem exec_freshId (w : World) :
    freshId.exec w =
      match w.ids.presets[w.ids.issued]? with
      | none => (.ok (Ident.Uuid.ofNat (w.ids.issued + 1)),
          { w with ids := { w.ids with issued := w.ids.issued + 1 } })
      | some g =>
        match presetId g with
        | .ok u => (.ok u, { w with ids := { w.ids with issued := w.ids.issued + 1 } })
        | .error f => (.error f, { w with ids := { w.ids with issued := w.ids.issued + 1 } }) := by
  simp only [freshId, exec_bind, exec_get, exec_set, Nat.add_sub_cancel]
  cases w.ids.presets[w.ids.issued]? with
  | none => rfl
  | some g =>
    dsimp only
    cases presetId g <;> rfl

theorem freshId_ok_of_valid (hv : w.ids.Valid) : ∃ u, (freshId.exec w).1 = .ok u := by
  rw [exec_freshId]
  cases hg : w.ids.presets[w.ids.issued]? with
  | none => exact ⟨_, rfl⟩
  | some g =>
    obtain ⟨t, u, rfl, hu⟩ := hv g (List.mem_of_getElem? hg)
    have hp : presetId (.text t) = .ok u := by simp [presetId, hu, Except.mapError]
    exact ⟨u, by simp [hp]⟩

theorem exec_createProfile [V : Mail.AddressValidator] (e n x : Given) (role : Role) (w : World) :
    (createProfile e n x role).exec w =
      match freshId.exec w with
      | (.error f, w') => (.error f, w')
      | (.ok u, w') =>
        match normalizeEmailField e, normalizeDisplayName n, normalizeExternalId x with
        | .ok email, .ok name, .ok ext =>
          (.ok { id := u.text, email, displayName := name, externalId := ext, role,
                 createdAt := w'.clock }, w')
        | .error f, _, _ => (.error f.toFault, w')
        | .ok _, .error f, _ => (.error f.toFault, w')
        | .ok _, .ok _, .error f => (.error f.toFault, w') := by
  unfold createProfile
  simp only [exec_bind]
  rcases freshId.exec w with ⟨_ | u, w'⟩
  · rfl
  · cases normalizeEmailField e <;> cases normalizeDisplayName n <;>
      cases normalizeExternalId x <;> rfl

/-- What a made profile holds: the text of a fresh identifier as its id, the checked fields, the
role asked for, and no deletion. -/
structure Made [V : Mail.AddressValidator] (e n x : Given) (role : Role) (p : Profile) : Prop where
  id : ∃ u : Ident.Uuid, p.id = u.text
  email : normalizeEmailField e = .ok p.email
  displayName : normalizeDisplayName n = .ok p.displayName
  externalId : normalizeExternalId x = .ok p.externalId
  role : p.role = role
  live : p.deleted = false

theorem createProfile_made [V : Mail.AddressValidator] {e n x : Given} {role : Role} {p : Profile}
    (h : ((createProfile e n x role).exec w).1 = .ok p) : Made e n x role p := by
  rw [exec_createProfile] at h
  rcases hf : freshId.exec w with ⟨_ | u, w'⟩ <;> rw [hf] at h
  · cases h
  · cases hee : normalizeEmailField e <;> cases hnn : normalizeDisplayName n <;>
      cases hxx : normalizeExternalId x <;> simp only [hee, hnn, hxx, reduceCtorEq] at h
    obtain rfl := Except.ok.inj h
    exact ⟨⟨u, rfl⟩, hee, hnn, hxx, rfl, rfl⟩

theorem createProfile_id [V : Mail.AddressValidator] {e n x : Given} {role : Role} {p : Profile}
    (h : ((createProfile e n x role).exec w).1 = .ok p) : ∃ u : Ident.Uuid, p.id = u.text :=
  (createProfile_made h).id

theorem freshId_world (w : World) :
    (freshId.exec w).2 = { w with ids := { w.ids with issued := w.ids.issued + 1 } } := by
  rw [exec_freshId]
  split
  · rfl
  · split <;> rfl

theorem createProfile_world [V : Mail.AddressValidator] (e n x : Given) (role : Role) (w : World) :
    ((createProfile e n x role).exec w).2 =
      { w with ids := { w.ids with issued := w.ids.issued + 1 } } := by
  rw [← freshId_world, exec_createProfile]
  rcases freshId.exec w with ⟨_ | u, w'⟩
  · rfl
  · dsimp only
    split <;> rfl

theorem createProfile_world_of [V : Mail.AddressValidator] {e n x : Given} {role : Role}
    {r : Except Fault Profile}
    {w' : World} (h : (createProfile e n x role).exec w = (r, w')) :
    w' = { w with ids := { w.ids with issued := w.ids.issued + 1 } } := by
  rw [← createProfile_world e n x role, h]

theorem createProfile_fault_invalid [V : Mail.AddressValidator] {e n x : Given} {role : Role}
    {f : Fault}
    (he : e.textOrNone = true) (hn : n.textOrNone = true) (hx : x.textOrNone = true)
    (hv : w.ids.Valid) (h : ((createProfile e n x role).exec w).1 = .error f) :
    ∃ m, f = .invalid m := by
  obtain ⟨u, hu⟩ := freshId_ok_of_valid hv
  rw [exec_createProfile] at h
  rcases hf : freshId.exec w with ⟨_ | u', w'⟩ <;> rw [hf] at hu h
  · cases hu
  · cases hee : normalizeEmailField e with
    | error f' =>
      rw [hee] at h
      cases h
      exact ⟨_, FieldError.toFault_of_refuses (normalizeEmailField_refuses he hee)⟩
    | ok email =>
      cases hnn : normalizeDisplayName n with
      | error f' =>
        rw [hee, hnn] at h
        cases h
        exact ⟨_, FieldError.toFault_of_refuses (normalizeDisplayName_refuses hn hnn)⟩
      | ok name =>
        cases hxx : normalizeExternalId x with
        | error f' =>
          rw [hee, hnn, hxx] at h
          cases h
          exact ⟨_, FieldError.toFault_of_refuses (normalizeExternalId_refuses hx hxx)⟩
        | ok ext =>
          rw [hee, hnn, hxx] at h
          cases h

theorem Store.add_clash {s : Store} {p : Profile} {f : ClashField} (hw : s.writeFailure = none)
    (hc : Store.clashOf s.profiles p = some f) : Store.add p s = (.error (.clash f), s) := by
  simp [Store.add, Store.beginWrite_of_none hw, hc]

theorem Store.add_fresh {s : Store} {p : Profile} (hw : s.writeFailure = none)
    (hc : Store.clashOf s.profiles p = none) :
    Store.add p s = (.ok p, { s with profiles := Store.put s.profiles p, adds := s.adds + 1 }) := by
  simp [Store.add, Store.beginWrite_of_none hw, hc]

/-- A creation that answered `p`: `p` has a fresh identifier's id and clashes with no live
profile, and it is put in the store and counted. -/
def Added (p : Profile) (s s' : Store) : Prop :=
  (∃ u : Ident.Uuid, p.id = u.text) ∧ Store.clashOf s.profiles p = none ∧
    s' = { s with profiles := Store.put s.profiles p, adds := s.adds + 1 }

/-! ## The operations -/

theorem ends_userById (t : Given) (caller : Option Caller) (w : World) :
    Ends False Answered (userById t caller) w := by
  cases ht : parseUserId t with
  | error e =>
    rw [Ends, userById_refused ht]
    exact .refused _
  | ok id =>
    unfold Ends userById
    rw [ht, checkField_ok]
    cases hr : w.store.readFailure with
    | some m =>
      simp only [exec_bind, exec_attempt, exec_loadFor_armed caller "read" hr, exec_pure]
      exact .fired (Store.fired_read hr)
    | none =>
      rcases exec_loadFor_found id "read" caller hr with ⟨p, hp, hl, he⟩ | ⟨w', he, hs⟩
      · simp only [exec_bind, exec_attempt, he, exec_pure]
        exact .succeeded p ⟨rfl, List.mem_of_find?_eq_some hp, hl⟩
      · simp only [exec_bind, exec_attempt, he, exec_pure]
        rw [hs]
        exact .failed _ (by decide) (by decide)

theorem ends_currentUser (caller : Option Caller) (w : World) :
    Ends False Answered (currentUser caller) w := by
  unfold Ends currentUser
  cases caller with
  | none => exact .failed _ (by decide) (by decide)
  | some c =>
    cases hn : normalizeExternalId (.text c.externalId) with
    | error e =>
      simp only [exec_bind, exec_attempt, exec_resolve_refused hn, exec_pure]
      exact .refused _
    | ok subject =>
      cases hr : w.store.readFailure with
      | some m =>
        simp only [exec_bind, exec_attempt, exec_resolve_armed hn hr, exec_pure]
        exact .fired (Store.fired_read hr)
      | none =>
        simp only [exec_bind, exec_attempt, exec_resolve_text _ hr, exec_pure]
        cases hres : resolution w.store c.externalId with
        | error f =>
          rw [resolution_error hn hres]
          exact .failed _ (by decide) (by decide)
        | ok p =>
          obtain ⟨hm, hl⟩ := resolution_live hres
          exact .succeeded p ⟨rfl, hm, hl⟩

theorem ends_userByEmail [V : Mail.AddressValidator] (e : Given) (caller : Option Caller)
    (w : World) :
    Ends (e.textOrNone = false) Answered (userByEmail e caller) w := by
  cases hn : normalizeEmailField e with
  | error f =>
    rw [Ends, userByEmail_refused hn]
    split
    · exact .refused _
    · rename_i hre
      exact .faulted _ (textOrNone_of_misuse hre fun hg => normalizeEmailField_refuses hg hn)
  | ok n =>
    unfold Ends
    cases hr : w.store.readFailure with
    | some m =>
      rw [exec_userByEmail_armed hn caller hr]
      exact .fired (Store.fired_read hr)
    | none =>
      rw [exec_userByEmail hn caller hr]
      cases ht : emailTarget w.store n with
      | none => exact .failed _ (by decide) (by decide)
      | some p =>
        obtain ⟨hm, hl, -⟩ := emailTarget_spec ht
        rcases exec_permit_cases p caller "read" hr with he | ⟨w', he, hs⟩
        · rw [he]
          exact .succeeded p ⟨rfl, hm, hl⟩
        · rw [he, hs]
          exact .failed _ (by decide) (by decide)

theorem ends_renameUser (t n : Given) (caller : Option Caller) (w : World) :
    Ends (n.textOrNone = false) (Renamed t n w.clock) (renameUser t n caller) w := by
  cases ht : parseUserId t with
  | error e =>
    rw [Ends, renameUser_refused ht]
    exact .refused _
  | ok id =>
    cases hn : normalizeDisplayName n with
    | error e =>
      rw [Ends, renameUser_name_error ht hn]
      split
      · exact .refused _
      · rename_i hre
        exact .faulted _ (textOrNone_of_misuse hre fun hg => normalizeDisplayName_refuses hg hn)
    | ok name =>
      unfold Ends
      rw [exec_renameUser_accepted ht hn]
      cases hr : w.store.readFailure with
      | some m =>
        rw [exec_loadFor_armed caller "rename" hr]
        exact .fired (Store.fired_read hr)
      | none =>
        rcases exec_loadFor_found id "rename" caller hr with ⟨p, hp, hl, he⟩ | ⟨w', he, hs⟩
        · cases hw : w.store.writeFailure with
          | some m =>
            simp only [he, Store.update_armed _ hw]
            exact .fired (Store.fired_write hw)
          | none =>
            have hf : w.store.find? (p.rename name w.clock).id = some p := by
              rw [Profile.rename_id, Store.find?_id hp]
              exact hp
            simp only [he, Store.update_live hw hf hl]
            obtain ⟨name₀, rfl, rfl⟩ := boundedField_ok hn
            exact .succeeded _ ⟨id, name₀, p, ht, rfl, hp, hl, rfl, rfl⟩
        · simp only [he, hs]
          exact .failed _ (by decide) (by decide)

theorem ends_deleteUser (t : Given) (caller : Option Caller) (w : World) :
    Ends False (Deleted t w.clock) (deleteUser t caller) w := by
  cases ht : parseUserId t with
  | error e =>
    rw [Ends, deleteUser_refused ht]
    exact .refused _
  | ok id =>
    unfold Ends
    rw [exec_deleteUser_accepted ht]
    cases hr : w.store.readFailure with
    | some m =>
      rw [exec_loadFor_armed caller "delete" hr]
      exact .fired (Store.fired_read hr)
    | none =>
      rcases exec_loadFor_found id "delete" caller hr with ⟨p, hp, hl, he⟩ | ⟨w', he, hs⟩
      · cases hw : w.store.writeFailure with
        | some m =>
          simp only [he, Store.softDelete_armed _ _ hw]
          exact .fired (Store.fired_write hw)
        | none =>
          simp only [he, Store.softDelete_live w.clock hw hp hl]
          exact .succeeded _ ⟨id, p, ht, hp, hl, rfl, rfl⟩
      · simp only [he, hs]
        exact .failed _ (by decide) (by decide)

theorem ends_createUser [V : Mail.AddressValidator] (e n x : Given) (w : World) :
    Ends (¬ (e.textOrNone ∧ n.textOrNone ∧ x.textOrNone ∧ w.ids.Valid)) Added
      (createUser e n x) w := by
  unfold Ends createUser
  have hs : w.store = ((createProfile e n x .user).exec w).2.store :=
    frames_createProfile (R := (· = ·)) e n x .user w
  have hid : ∀ {p}, ((createProfile e n x .user).exec w).1 = .ok p →
      ∃ u : Ident.Uuid, p.id = u.text := createProfile_id
  have hinv : ∀ {f}, (e.textOrNone ∧ n.textOrNone ∧ x.textOrNone ∧ w.ids.Valid) →
      ((createProfile e n x .user).exec w).1 = .error f → ∃ m, f = .invalid m :=
    fun hall => createProfile_fault_invalid hall.1 hall.2.1 hall.2.2.1 hall.2.2.2
  rcases hc : (createProfile e n x .user).exec w with ⟨_ | record, w₁⟩ <;>
    rw [hc] at hs hid hinv
  · rename_i f
    cases f
    case invalid m =>
      simp only [exec_bind, exec_attempt, hc, exec_pure]
      rw [← hs]
      exact .refused m
    all_goals
      simp only [exec_bind, exec_attempt, hc, exec_throw]
      rw [← hs]
      refine .faulted _ fun hall => ?_
      obtain ⟨m, hm⟩ := hinv hall rfl
      cases hm
  · simp only [exec_bind, exec_attempt, hc]
    cases hw : w₁.store.writeFailure with
    | some m =>
      simp only [exec_liftStore, Store.add_armed _ hw, bind_pure_comp]
      rw [← hs] at hw ⊢
      exact .fired (Store.fired_write hw)
    | none =>
      cases hcl : Store.clashOf w₁.store.profiles record with
      | some field =>
        simp only [exec_liftStore, Store.add_clash hw hcl, bind_pure_comp]
        rw [← hs]
        exact .failed _ nofun nofun
      | none =>
        simp only [exec_liftStore, Store.add_fresh hw hcl, bind_pure_comp, exec_map, exec_notify]
        rw [← hs] at hcl ⊢
        exact .succeeded _ ⟨hid rfl, hcl, rfl⟩

theorem ends_listUsers (r : ListRequest) {a b : Int} (ha : r.pageNumber = .whole a)
    (hb : r.pageSize = .whole b) (w : World) :
    Ends (r.search.textOrNone = false) Unwritten (listUsers r) w := by
  unfold Ends listUsers
  simp only [ha, hb, Bound.belowOne, requireUse, Bound.whole?, exec_bind, exec_pure]
  by_cases h₁ : a < 1
  · simp only [h₁, decide_true, ite_true, exec_pure]
    exact .refused _
  by_cases h₂ : b < 1
  · simp only [h₁, h₂, decide_true, decide_false]
    exact .refused _
  simp only [h₁, h₂, decide_false, Bool.false_eq_true, if_false, pure_bind, Option.isNone_some,
    Bool.or_self]
  cases hs : r.search.orEmpty with
  | error k =>
    simp only [Except.mapError, exec_bind, exec_throw]
    refine .faulted _ (Bool.eq_false_iff.mpr fun hg => ?_)
    obtain ⟨t, ht⟩ := orEmpty_of_textOrNone hg
    rw [hs] at ht
    cases ht
  | ok t =>
    simp only [Except.mapError, exec_bind, exec_pure, exec_attempt, exec_liftStore, Store.getPage]
    cases hr : w.store.readFailure with
    | some m =>
      rw [Store.reading_of_some _ hr]
      exact .fired (Store.fired_read hr)
    | none =>
      rw [Store.reading_of_none _ hr]
      exact .succeeded _ rfl


end UserDirectory.Account
