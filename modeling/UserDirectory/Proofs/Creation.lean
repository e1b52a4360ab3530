import UserDirectory.Proofs.Outcomes

/-!
# What creating a profile answers

From any world with no write failure armed and a supply that hands out identifiers, creating a
profile from strings (or nothing) answers in exactly one of three ways (`create_user_answers`):

* a validation failure when a field is refused, with the message of the first refused field in
  the order email, display name, external id (`firstRefusal`);
* with every field accepted, a conflict when a live profile has the stored email or external id.
  The first such profile in store order (`firstClash`) decides the message: it names the email
  exactly when that profile has it, whatever later profiles share;
* otherwise the new profile: the text of a fresh identifier, the stored forms of the fields, the
  role `User`, created at the clock's instant, never updated and not deleted.

`firstClash` looks at live profiles only, so a deleted profile never makes a conflict and its
email and external id can be taken again.
-/

namespace UserDirectory.Account

open Act

/-- The first field of a creation whose rule refuses it, looked at in the order email, display
name, external id. -/
def firstRefusal [V : Mail.AddressValidator] (e n x : Given) : Option FieldError :=
  match normalizeEmailField e, normalizeDisplayName n, normalizeExternalId x with
  | .error f, _, _ => some f
  | .ok _, .error f, _ => some f
  | .ok _, .ok _, .error f => some f
  | .ok _, .ok _, .ok _ => none

/-- The first live profile, in store order, that has the email or the external id. -/
def firstClash (ps : List Profile) (email : String) (ext : Text) : Option Profile :=
  ps.find? fun q => !q.deleted && (q.email == email || q.externalId == ext)

/-- The field that a live profile shares with an added one: the email if it has it. -/
def sharedField (q p : Profile) : ClashField :=
  if q.email = p.email then .email else .externalId

theorem clashOf_eq_firstClash (ps : List Profile) (p : Profile) :
    Store.clashOf ps p = (firstClash ps p.email p.externalId).map (sharedField · p) := by
  induction ps with
  | nil => rfl
  | cons q ps ih =>
    unfold Store.clashOf firstClash at *
    rw [List.findSome?_cons, List.find?_cons, ih]
    by_cases hd : q.deleted
    · simp [hd]
    by_cases he : q.email = p.email
    · simp [hd, he, sharedField]
    by_cases hx : q.externalId = p.externalId
    · simp [hd, he, hx, sharedField]
    · simp [hd, beq_false_of_ne he, beq_false_of_ne hx]

theorem firstRefusal_eq_none [V : Mail.AddressValidator] {e n x : Given}
    (h : firstRefusal e n x = none) :
    ∃ m t ext, normalizeEmailField e = .ok m ∧ normalizeDisplayName n = .ok t ∧
      normalizeExternalId x = .ok ext := by
  unfold firstRefusal at h
  cases he : normalizeEmailField e <;> cases hn : normalizeDisplayName n <;>
    cases hx : normalizeExternalId x <;> simp only [he, hn, hx, reduceCtorEq] at h
  exact ⟨_, _, _, rfl, rfl, rfl⟩

theorem firstRefusal_refuses [V : Mail.AddressValidator] {e n x : Given} {f : FieldError}
    (he : e.textOrNone = true)
    (hn : n.textOrNone = true) (hx : x.textOrNone = true) (h : firstRefusal e n x = some f) :
    f.refuses = true := by
  unfold firstRefusal at h
  cases hee : normalizeEmailField e with
  | error f' =>
    simp only [hee, Option.some.injEq] at h
    exact h ▸ normalizeEmailField_refuses he hee
  | ok m =>
    cases hnn : normalizeDisplayName n with
    | error f' =>
      simp only [hee, hnn, Option.some.injEq] at h
      exact h ▸ normalizeDisplayName_refuses hn hnn
    | ok t =>
      cases hxx : normalizeExternalId x with
      | error f' =>
        simp only [hee, hnn, hxx, Option.some.injEq] at h
        exact h ▸ normalizeExternalId_refuses hx hxx
      | ok ext => simp only [hee, hnn, hxx, reduceCtorEq] at h

variable {w : World} {e n x : Given}

theorem exec_freshId_of_valid (hv : w.ids.Valid) :
    ∃ u, freshId.exec w = (.ok u, { w with ids := { w.ids with issued := w.ids.issued + 1 } }) := by
  obtain ⟨u, hu⟩ := freshId_ok_of_valid hv
  exact ⟨u, Prod.ext hu (freshId_world w)⟩

theorem createProfile_refused [V : Mail.AddressValidator] {f : FieldError} (hv : w.ids.Valid)
    (he : e.textOrNone = true)
    (hn : n.textOrNone = true) (hx : x.textOrNone = true) (h : firstRefusal e n x = some f)
    (role : Role) : ((createProfile e n x role).exec w).1 = .error (.invalid f.message) := by
  obtain ⟨u, hu⟩ := exec_freshId_of_valid hv
  rw [exec_createProfile, hu, ← FieldError.toFault_of_refuses (firstRefusal_refuses he hn hx h)]
  unfold firstRefusal at h
  cases hee : normalizeEmailField e <;> cases hnn : normalizeDisplayName n <;>
    cases hxx : normalizeExternalId x <;> simp_all

theorem createProfile_accepted [V : Mail.AddressValidator] {m : String} {t ext : Text}
    (hv : w.ids.Valid)
    (hm : normalizeEmailField e = .ok m) (ht : normalizeDisplayName n = .ok t)
    (hx : normalizeExternalId x = .ok ext) (role : Role) :
    ∃ u : Ident.Uuid, (createProfile e n x role).exec w =
      (.ok { id := u.text, email := m, displayName := t, externalId := ext, role,
             createdAt := w.clock },
        { w with ids := { w.ids with issued := w.ids.issued + 1 } }) := by
  obtain ⟨u, hu⟩ := exec_freshId_of_valid hv
  refine ⟨u, ?_⟩
  rw [exec_createProfile, hu]
  simp only [hm, ht, hx]

theorem createUser_refused [V : Mail.AddressValidator] {f : FieldError} (hv : w.ids.Valid)
    (he : e.textOrNone = true)
    (hn : n.textOrNone = true) (hx : x.textOrNone = true) (h : firstRefusal e n x = some f) :
    ((createUser e n x).exec w).1 = .ok (.error (.validation f.message)) := by
  have hc := createProfile_refused (w := w) hv he hn hx h .user
  unfold createUser
  rcases hp : (createProfile e n x .user).exec w with ⟨r, w'⟩
  rw [hp] at hc
  cases hc
  simp only [exec_bind, exec_attempt, hp, exec_pure]

theorem createUser_accepted [V : Mail.AddressValidator] {m : String} {t ext : Text}
    (hw : w.store.writeFailure = none)
    (hv : w.ids.Valid) (hm : normalizeEmailField e = .ok m) (ht : normalizeDisplayName n = .ok t)
    (hx : normalizeExternalId x = .ok ext) :
    ∃ u : Ident.Uuid, ((createUser e n x).exec w).1 =
      let p : Profile := { id := u.text, email := m, displayName := t, externalId := ext,
                           role := .user, createdAt := w.clock }
      match firstClash w.store.profiles m ext with
      | some q => .ok (.error ⟨.conflict, (sharedField q p).message⟩)
      | none => .ok (.ok p) := by
  obtain ⟨u, hp⟩ := createProfile_accepted (w := w) hv hm ht hx .user
  refine ⟨u, ?_⟩
  unfold createUser
  simp only [exec_bind, exec_attempt, hp, exec_liftStore]
  cases hq : firstClash w.store.profiles m ext with
  | some q =>
    have hcl := clashOf_eq_firstClash w.store.profiles
      { id := u.text, email := m, displayName := t, externalId := ext, role := .user,
        createdAt := w.clock }
    simp only [hq, Option.map_some] at hcl
    simp only [Store.add_clash hw hcl, bind_pure_comp]
    rfl
  | none =>
    have hcl := clashOf_eq_firstClash w.store.profiles
      { id := u.text, email := m, displayName := t, externalId := ext, role := .user,
        createdAt := w.clock }
    simp only [hq, Option.map_none] at hcl
    simp only [Store.add_fresh hw hcl, bind_pure_comp, exec_map, exec_notify]

/-! ## The answer of a creation -/

/-- What a creation answers, given the result `r` of its run on `w`. -/
structure CreationAnswer [V : Mail.AddressValidator] (e n x : Given) (w : World)
    (r : Except Fault (Outcome Profile)) :
    Prop where
  /-- a validation failure exactly when a field is refused, with the first refused field's
  message -/
  refused : ∀ msg, r = .ok (.error (.validation msg)) ↔
    ∃ f, firstRefusal e n x = some f ∧ msg = f.message
  /-- with every field accepted, a conflict exactly when a live profile has the email or the
  external id; the message names the email exactly when the first such profile has it -/
  conflict : ∀ m t ext, normalizeEmailField e = .ok m → normalizeDisplayName n = .ok t →
    normalizeExternalId x = .ok ext → ∀ msg,
      (r = .ok (.error ⟨.conflict, msg⟩) ↔ ∃ q, firstClash w.store.profiles m ext = some q ∧
        msg = (if q.email = m then ClashField.email else ClashField.externalId).message)
  /-- with every field accepted and no live profile having either, the new profile -/
  created : ∀ m t ext, normalizeEmailField e = .ok m → normalizeDisplayName n = .ok t →
    normalizeExternalId x = .ok ext → firstClash w.store.profiles m ext = none →
      ∃ u : Ident.Uuid, r = .ok (.ok
        { id := u.text, email := m, displayName := t, externalId := ext, role := .user,
          createdAt := w.clock, updatedAt := none, deleted := false, deletedAt := none })

/-- Creating a profile, from any world with no write failure armed and a supply that hands out
identifiers, and from strings or nothing: a refused field answers validation with the message of
the first refused field (email, display name, external id, in this order); otherwise a live
profile with the email or the external id answers a conflict, whose message names the email
exactly when the first such profile in store order has it; otherwise the answer is the new
profile, with role `User`, created at the clock's instant, never updated and not deleted.
Deleted profiles make no conflict. -/
theorem create_user_answers [V : Mail.AddressValidator] (hw : w.store.writeFailure = none)
    (hv : w.ids.Valid)
    (he : e.textOrNone = true) (hn : n.textOrNone = true) (hx : x.textOrNone = true) :
    CreationAnswer e n x w ((createUser e n x).exec w).1 := by
  cases hr : firstRefusal e n x with
  | some f =>
    have hans := createUser_refused (w := w) hv he hn hx hr
    have hacc : ∀ m t ext, normalizeEmailField e = .ok m → normalizeDisplayName n = .ok t →
        normalizeExternalId x = .ok ext → False := fun m t ext hm ht hx' => by
      simp [firstRefusal, hm, ht, hx'] at hr
    refine ⟨fun msg => ?_, fun m t ext hm ht hx' => (hacc m t ext hm ht hx').elim,
      fun m t ext hm ht hx' => (hacc m t ext hm ht hx').elim⟩
    rw [hans]
    simp [Failure.validation, hr, eq_comm]
  | none =>
    obtain ⟨m, t, ext, hm, ht, hx'⟩ := firstRefusal_eq_none hr
    obtain ⟨u, hans⟩ := createUser_accepted hw hv hm ht hx'
    have huniq : ∀ m' t' ext', normalizeEmailField e = .ok m' → normalizeDisplayName n = .ok t' →
        normalizeExternalId x = .ok ext' → m' = m ∧ t' = t ∧ ext' = ext :=
      fun m' t' ext' hm' ht' hx'' =>
        ⟨Except.ok.inj (hm'.symm.trans hm), Except.ok.inj (ht'.symm.trans ht),
          Except.ok.inj (hx''.symm.trans hx')⟩
    refine ⟨fun msg => ?_, fun m' t' ext' hm' ht' hx'' msg => ?_,
      fun m' t' ext' hm' ht' hx'' hq => ?_⟩
    · rw [hans]
      cases firstClash w.store.profiles m ext <;> simp [Failure.validation, hr]
    · obtain ⟨rfl, rfl, rfl⟩ := huniq m' t' ext' hm' ht' hx''
      rw [hans]
      cases firstClash w.store.profiles m' ext' with
      | some q => simp [sharedField, eq_comm]
      | none => simp
    · obtain ⟨rfl, rfl, rfl⟩ := huniq m' t' ext' hm' ht' hx''
      rw [hans, hq]
      exact ⟨u, rfl⟩

/-- A creation in the sample world with Ann's email, which her deleted first profile also has,
and Bob's external id: both clash with live profiles, and Ann's comes first in store order. -/
theorem create_user_answers_clash :
    letI := Session.emailValidator
    let w : World := { store := Sample.store }
    let e : Given := .ofString " Ann@Example.org "
    let n : Given := .ofString "Dee"
    let x : Given := .ofString "ext-bob"
    w.store.writeFailure = none ∧ w.ids.Valid ∧ e.textOrNone = true ∧ n.textOrNone = true ∧
      x.textOrNone = true ∧ CreationAnswer e n x w ((createUser e n x).exec w).1 :=
  by
  intro w e n x
  have hv : w.ids.Valid := IdSupply.valid_of_presets rfl
  exact ⟨rfl, hv, rfl, rfl, rfl,
    create_user_answers (V := Session.emailValidator) rfl hv rfl rfl rfl⟩

end UserDirectory.Account
