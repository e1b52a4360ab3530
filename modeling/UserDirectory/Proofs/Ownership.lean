import UserDirectory.Proofs.StoreUnique
import UserDirectory.Session.Runtime

/-!
# Ownership decides access

A caller is never trusted for its claimed role: `resolve` looks up the caller's own live profile
by its normalized external id, and only the role stored there counts. A caller may act on a
profile when the profile it resolves to is an administrator or is that very profile.

With no store failure armed, the lemmas here compute each step of that decision on any world:

* `resolve` on a text never faults and changes nothing (`exec_resolve_text`);
* `authorizeCaller` allows exactly the callers that resolve to an administrator or to the target,
  and `authorize`, handed the role the caller resolves to, decides the same
  (`exec_authorizeCaller`, `exec_authorize_storedRole`);
* `permit` lets an allowed caller through and answers a denied one as if the profile were missing,
  reporting the denial (`exec_permit`).

From these, reading by id or email, renaming and deleting succeed exactly for the callers that may
act on a live target and fail as not found for every other caller (`ownership_decides_access`).
The claimed role is read by none of them, so two callers that differ only in it get the same
answers, events and store (`claimedRole_irrelevant`).
-/

namespace UserDirectory.Account

open Act

variable {w : World} {c : Caller}

/-! ## Resolving a caller -/

theorem normalizeExternalId_text (x : Text) :
    normalizeExternalId (.text x) =
      if x.strip.isEmpty then .error .externalIdMissing
      else if externalIdLimit < x.strip.length then .error .externalIdTooLong
      else .ok x.strip := rfl

theorem normalizeExternalId_text_refuses {x : Text} {e : FieldError}
    (h : normalizeExternalId (.text x) = .error e) : e.refuses = true := by
  rw [normalizeExternalId_text] at h
  split at h
  · cases h
    rfl
  · split at h
    · cases h
      rfl
    · cases h

/-- What resolving an external id gives when no read failure is armed. -/
def resolution (s : Store) (x : Text) : Outcome Profile :=
  match normalizeExternalId (.text x) with
  | .error e => .error (.validation e.message)
  | .ok subject =>
    match s.firstVisible (·.externalId == subject) false with
    | some p => .ok p
    | none => .error .notFound

theorem exec_resolve_text (x : Text) (hr : w.store.readFailure = none) :
    (resolve (.text x)).exec w = (.ok (resolution w.store x), w) := by
  unfold resolve resolution
  cases hn : normalizeExternalId (.text x) with
  | error e => simp [normalizeExternalId_text_refuses hn]
  | ok subject =>
    simp only [exec_bind, Store.getByExternalId, exec_liftStore_reading _ hr]
    cases w.store.firstVisible (·.externalId == subject) false <;> rfl

theorem resolution_live {s : Store} {x : Text} {a : Profile} (h : resolution s x = .ok a) :
    a ∈ s.profiles ∧ a.deleted = false := by
  unfold resolution at h
  split at h
  · cases h
  · split at h
    · rename_i hf
      cases h
      have hvis := List.find?_some hf
      simp only [Bool.and_eq_true, Profile.visible] at hvis
      exact ⟨List.mem_of_find?_eq_some hf, by simpa using hvis.2⟩
    · cases h

/-! ## Decisions -/

/-- The callers that may act on the profile with id `id`: those that resolve to an administrator
or to that profile. -/
def MayAct (s : Store) (c : Caller) (id : String) : Prop :=
  ∃ a, resolution s c.externalId = .ok a ∧ (a.role = .admin ∨ a.id = id)

theorem ownership_ofString {o : Outcome Profile} {id : String} :
    ownership o (Given.ofString id) = .allow ↔ ∃ a, o = .ok a ∧ a.id = id := by
  unfold ownership
  split
  · rename_i a
    by_cases h : a.id = id
    · simp [h]
    · have : Given.ofString a.id ≠ Given.ofString id := fun e =>
        h (Store.ofString_injective (Given.text.inj e))
      simp [this, h]
  · simp

theorem storedRole_eq_admin {o : Outcome Profile} :
    storedRole o = some .admin ↔ ∃ a, o = .ok a ∧ a.role = .admin := by
  unfold storedRole
  split <;> simp

theorem exec_authorizeCaller (id : String) (hr : w.store.readFailure = none) :
    ∃ d, (authorizeCaller c (Given.ofString id)).exec w = (.ok d, w) ∧
      (d = .allow ↔ MayAct w.store c id) := by
  unfold authorizeCaller
  simp only [exec_bind, exec_resolve_text _ hr]
  by_cases ha : storedRole (resolution w.store c.externalId) = some .admin
  · refine ⟨.allow, by simp [ha], iff_of_true rfl ?_⟩
    obtain ⟨a, hres, hrole⟩ := storedRole_eq_admin.mp ha
    exact ⟨a, hres, .inl hrole⟩
  · refine ⟨ownership (resolution w.store c.externalId) (Given.ofString id), by simp [ha], ?_⟩
    rw [ownership_ofString]
    constructor
    · rintro ⟨a, hres, hid⟩
      exact ⟨a, hres, .inr hid⟩
    · rintro ⟨a, hres, hrole | hid⟩
      · exact absurd (storedRole_eq_admin.mpr ⟨a, hres, hrole⟩) ha
      · exact ⟨a, hres, hid⟩

theorem exec_authorize_storedRole (target : Given) (hr : w.store.readFailure = none) :
    (authorize (.text c.externalId) (storedRole (resolution w.store c.externalId)) target).exec w =
      (authorizeCaller c target).exec w := by
  unfold authorize authorizeCaller
  by_cases ha : storedRole (resolution w.store c.externalId) = some .admin
  · simp [ha, exec_resolve_text _ hr]
  · simp [ha, exec_resolve_text _ hr]

theorem exec_isAdmin (hr : w.store.readFailure = none) :
    ∃ b, (isAdmin c).exec w = (.ok b, w) ∧
      (b = true ↔ ∃ a, resolution w.store c.externalId = .ok a ∧ a.role = .admin) := by
  unfold isAdmin
  simp only [exec_bind, exec_resolve_text _ hr]
  refine ⟨storedRole (resolution w.store c.externalId) == some .admin, rfl, ?_⟩
  rw [beq_iff_eq, storedRole_eq_admin]

/-! ## Letting a caller through -/

/-- The world after a denied access to `p` for `action`: the denial is reported. -/
def World.denied (w : World) (p : Profile) (action : String) : World :=
  { w with events := w.events ++ [.mk' .accessDenied (some p.id) .failure [("action", action)]] }

theorem exec_permit (p : Profile) (action : String) (hr : w.store.readFailure = none) :
    (MayAct w.store c p.id ∧ (permit p (some c) action).exec w = (.ok (.ok p), w)) ∨
      (¬ MayAct w.store c p.id ∧
        (permit p (some c) action).exec w = (.ok (.error .notFound), w.denied p action)) := by
  obtain ⟨d, hd, hiff⟩ := exec_authorizeCaller (c := c) p.id hr
  cases d with
  | allow => exact .inl ⟨hiff.mp rfl, by simp [permit, hd]⟩
  | deny =>
    refine .inr ⟨(fun h => nomatch hiff.mpr h), ?_⟩
    simp [permit, hd, World.denied]

@[simp] theorem exec_permit_none (p : Profile) (action : String) :
    (permit p none action).exec w = (.ok (.ok p), w) := rfl

theorem exec_getById (id : String) (hr : w.store.readFailure = none) :
    (liftStore (Store.getById id)).exec w = (.ok ((w.store.find? id).filter (·.visible false)), w) :=
  exec_liftStore_reading _ hr

theorem exec_loadFor (id action : String) (caller : Option Caller)
    (hr : w.store.readFailure = none) :
    (loadFor id caller action).exec w =
      match (w.store.find? id).filter (·.visible false) with
      | none => (.ok (.error .notFound), w)
      | some p => (permit p caller action).exec w := by
  unfold loadFor
  simp only [exec_bind, exec_getById id hr]
  cases (w.store.find? id).filter (·.visible false) <;> rfl

theorem exec_answerFound {k : Option Profile → Act (Outcome Profile)} (action : String)
    (hnone : k none = pure (.error .notFound)) (hsome : ∀ p, k (some p) = permit p (some c) action)
    (found : Option Profile) (hr : w.store.readFailure = none) :
    (∃ r, (found = some r ∧ MayAct w.store c r.id) ∧ (k found).exec w = (.ok (.ok r), w)) ∨
      ((¬ ∃ r, found = some r ∧ MayAct w.store c r.id) ∧
        ∃ w', (k found).exec w = (.ok (.error .notFound), w') ∧ w'.store = w.store) := by
  cases found with
  | none =>
    refine .inr ⟨?_, w, by rw [hnone]; rfl, rfl⟩
    rintro ⟨r, h, _⟩
    cases h
  | some r =>
    rw [hsome]
    rcases exec_permit (c := c) r action hr with ⟨hm, he⟩ | ⟨hm, he⟩
    · exact .inl ⟨r, ⟨rfl, hm⟩, he⟩
    · refine .inr ⟨?_, w.denied r action, he, rfl⟩
      rintro ⟨r', h, hm'⟩
      cases h
      exact hm hm'

/-- A caller and a live target it may act on. -/
def Admitted (s : Store) (c : Caller) (id : String) (r : Profile) : Prop :=
  s.find? id = some r ∧ r.deleted = false ∧ MayAct s c r.id

theorem filter_visible_eq_some {o : Option Profile} {r : Profile} :
    o.filter (·.visible false) = some r ↔ o = some r ∧ r.deleted = false := by
  rw [Option.filter_eq_some_iff]
  simp [Profile.visible]

variable {id : String}

theorem exec_loadFor_caller (id action : String) (hr : w.store.readFailure = none) :
    (∃ r, Admitted w.store c id r ∧ (loadFor id (some c) action).exec w = (.ok (.ok r), w)) ∨
      ((¬ ∃ r, Admitted w.store c id r) ∧
        ∃ w', (loadFor id (some c) action).exec w = (.ok (.error .notFound), w') ∧
          w'.store = w.store) := by
  have hadm : ∀ r, Admitted w.store c id r ↔
      (w.store.find? id).filter (·.visible false) = some r ∧ MayAct w.store c r.id := by
    intro r
    rw [filter_visible_eq_some, Admitted, and_assoc]
  simp only [hadm]
  unfold loadFor
  simp only [exec_bind, exec_getById id hr]
  generalize (w.store.find? id).filter (·.visible false) = found
  apply exec_answerFound action _ _ _ hr
  · rfl
  · intro p
    rfl

theorem exec_loadFor_admitted (action : String) {r : Profile} (hadm : Admitted w.store c id r)
    (hr : w.store.readFailure = none) :
    (loadFor id (some c) action).exec w = (.ok (.ok r), w) := by
  rcases exec_loadFor_caller (c := c) id action hr with ⟨r', hadm', he⟩ | ⟨hno, _⟩
  · have : r' = r := Option.some.inj (hadm'.1.symm.trans hadm.1)
    rw [he, this]
  · exact absurd ⟨r, hadm⟩ hno

theorem exec_loadFor_refused (action : String) (hno : ¬ ∃ r, Admitted w.store c id r)
    (hr : w.store.readFailure = none) :
    ∃ w', (loadFor id (some c) action).exec w = (.ok (.error .notFound), w') ∧
      w'.store = w.store := by
  rcases exec_loadFor_caller (c := c) id action hr with ⟨r, hadm, _⟩ | ⟨_, h⟩
  · exact absurd ⟨r, hadm⟩ hno
  · exact h

theorem exec_loadFor_ok (id action : String) (caller : Option Caller)
    (hr : w.store.readFailure = none) :
    ∃ o w', (loadFor id caller action).exec w = (.ok o, w') ∧ w'.store = w.store := by
  cases caller with
  | none =>
    rw [exec_loadFor id action _ hr]
    cases (w.store.find? id).filter (·.visible false) with
    | none => exact ⟨_, w, rfl, rfl⟩
    | some p => exact ⟨_, w, exec_permit_none p action, rfl⟩
  | some c =>
    rcases exec_loadFor_caller (c := c) id action hr with ⟨r, _, he⟩ | ⟨_, w', he, hs⟩
    · exact ⟨_, w, he, rfl⟩
    · exact ⟨_, w', he, hs⟩

theorem exec_permit_ok (p : Profile) (caller : Option Caller) (action : String)
    (hr : w.store.readFailure = none) :
    ∃ o w', (permit p caller action).exec w = (.ok o, w') ∧ w'.store = w.store := by
  cases caller with
  | none => exact ⟨_, w, exec_permit_none p action, rfl⟩
  | some c =>
    rcases exec_permit (c := c) p action hr with ⟨_, he⟩ | ⟨_, he⟩
    · exact ⟨_, w, he, rfl⟩
    · exact ⟨_, w.denied p action, he, rfl⟩

/-! ## Reading, renaming and deleting -/

theorem checkField_ok {α β : Type} (a : α) (k : α → Act (Outcome β)) :
    checkField (.ok a) k = k a := rfl

theorem checkField_error {α β : Type} (e : FieldError) (k : α → Act (Outcome β)) :
    checkField (.error e) k =
      if e.refuses then pure (.error (.validation e.message)) else throw e.toFault := rfl

variable {t : Given}

theorem exec_userById (ht : parseUserId t = .ok id) (caller : Option Caller)
    (hr : w.store.readFailure = none) :
    (userById t caller).exec w = (loadFor id caller "read").exec w := by
  obtain ⟨o, w', he, _⟩ := exec_loadFor_ok id "read" caller hr
  unfold userById
  rw [ht, checkField_ok]
  simp [he]

theorem exec_userById_refused (ht : parseUserId t = .ok id) (hr : w.store.readFailure = none)
    (hno : ¬ ∃ r, Admitted w.store c id r) :
    ((userById t (some c)).exec w).1 = .ok (.error .notFound) ∧
      ((userById t (some c)).exec w).2.store = w.store := by
  obtain ⟨w', he, hs⟩ := exec_loadFor_refused "read" hno hr
  rw [exec_userById ht _ hr, he]
  exact ⟨rfl, hs⟩

/-- The first live profile whose email is the key a read by email compares: the text stripped
and lower-cased. -/
def emailTarget (s : Store) (n : String) : Option Profile :=
  s.firstVisible (fun p => Text.ofString p.email == (Text.ofString n).strip.lower) false

theorem emailTarget_spec {s : Store} {n : String} {x : Profile} (h : emailTarget s n = some x) :
    x ∈ s.profiles ∧ x.deleted = false ∧
      Text.ofString x.email = (Text.ofString n).strip.lower := by
  unfold emailTarget Store.firstVisible at h
  have hx := List.find?_some h
  simp only [Bool.and_eq_true, beq_iff_eq, Profile.visible, Bool.false_or, Bool.not_eq_true']
    at hx
  exact ⟨List.mem_of_find?_eq_some h, hx.2, hx.1⟩

theorem exec_userByEmail [V : Mail.AddressValidator] {e : Given} {n : String}
    (hn : normalizeEmailField e = .ok n)
    (caller : Option Caller) (hr : w.store.readFailure = none) :
    (userByEmail e caller).exec w =
      (match emailTarget w.store n with
        | none => pure (.error .notFound)
        | some p => permit p caller "read" : Act (Outcome Profile)).exec w := by
  unfold userByEmail emailTarget
  rw [hn, checkField_ok]
  simp only [exec_bind, exec_attempt, Store.getByEmail, exec_liftStore_reading _ hr]
  cases w.store.firstVisible (fun p => Text.ofString p.email == (Text.ofString n).strip.lower) false with
  | none => rfl
  | some p =>
    obtain ⟨o, w', he, _⟩ := exec_permit_ok p caller "read" hr
    simp [he]

theorem exec_userByEmail_caller [V : Mail.AddressValidator] {e : Given} {n : String}
    (hn : normalizeEmailField e = .ok n)
    (hr : w.store.readFailure = none) :
    (∃ r, (emailTarget w.store n = some r ∧ MayAct w.store c r.id) ∧
        (userByEmail e (some c)).exec w = (.ok (.ok r), w)) ∨
      ((¬ ∃ r, emailTarget w.store n = some r ∧ MayAct w.store c r.id) ∧
        ∃ w', (userByEmail e (some c)).exec w = (.ok (.error .notFound), w') ∧
          w'.store = w.store) := by
  rw [exec_userByEmail hn _ hr]
  generalize emailTarget w.store n = found
  apply exec_answerFound "read" _ _ _ hr
  · rfl
  · intro p
    rfl

theorem Store.update_live {s : Store} {p q : Profile} (hw : s.writeFailure = none)
    (hf : s.find? p.id = some q) (hl : q.deleted = false) :
    Store.update p s =
      (.ok (some p), { s with profiles := Store.put s.profiles p, updates := s.updates + 1 }) := by
  simp [Store.update, Store.beginWrite_of_none hw, hf, hl]

theorem Store.softDelete_live {s : Store} {id : String} {q : Profile} (now : Instant)
    (hw : s.writeFailure = none) (hf : s.find? id = some q) (hl : q.deleted = false) :
    Store.softDelete id now s =
      (.ok (some (q.markDeleted now)), { s with
        profiles := Store.put s.profiles (q.markDeleted now), softDeletes := s.softDeletes + 1 }) := by
  simp [Store.softDelete, Store.beginWrite_of_none hw, hf, hl]

theorem Store.find?_id {s : Store} {id : String} {r : Profile} (h : s.find? id = some r) :
    r.id = id := by
  simpa using List.find?_some h

variable {n : Given} {name : Text}

theorem exec_renameUser_admitted (ht : parseUserId t = .ok id)
    (hn : normalizeDisplayName n = .ok name) (hr : w.store.readFailure = none)
    (hw : w.store.writeFailure = none) {r : Profile} (hadm : Admitted w.store c id r) :
    ((renameUser t n (some c)).exec w).1 = .ok (.ok (r.rename name w.clock)) ∧
      ((renameUser t n (some c)).exec w).2.store.profiles =
        Store.put w.store.profiles (r.rename name w.clock) := by
  have hf : w.store.find? (r.rename name w.clock).id = some r := by
    rw [Profile.rename_id, Store.find?_id hadm.1]
    exact hadm.1
  unfold renameUser
  rw [ht, checkField_ok, hn, checkField_ok]
  simp [exec_loadFor_admitted "rename" hadm hr, Store.update_live hw hf hadm.2.1]

theorem exec_renameUser_refused (ht : parseUserId t = .ok id)
    (hn : normalizeDisplayName n = .ok name) (hr : w.store.readFailure = none)
    (hno : ¬ ∃ r, Admitted w.store c id r) :
    ((renameUser t n (some c)).exec w).1 = .ok (.error .notFound) ∧
      ((renameUser t n (some c)).exec w).2.store = w.store := by
  obtain ⟨w', he, hs⟩ := exec_loadFor_refused "rename" hno hr
  unfold renameUser
  rw [ht, checkField_ok, hn, checkField_ok]
  simp [he, hs]

theorem exec_deleteUser_admitted (ht : parseUserId t = .ok id) (hr : w.store.readFailure = none)
    (hw : w.store.writeFailure = none) {r : Profile} (hadm : Admitted w.store c id r) :
    ((deleteUser t (some c)).exec w).1 = .ok (.ok (r.markDeleted w.clock)) ∧
      ((deleteUser t (some c)).exec w).2.store.profiles =
        Store.put w.store.profiles (r.markDeleted w.clock) := by
  unfold deleteUser
  rw [ht, checkField_ok]
  simp [exec_loadFor_admitted "delete" hadm hr, Store.softDelete_live w.clock hw hadm.1 hadm.2.1]

theorem exec_deleteUser_refused (ht : parseUserId t = .ok id) (hr : w.store.readFailure = none)
    (hno : ¬ ∃ r, Admitted w.store c id r) :
    ((deleteUser t (some c)).exec w).1 = .ok (.error .notFound) ∧
      ((deleteUser t (some c)).exec w).2.store = w.store := by
  obtain ⟨w', he, hs⟩ := exec_loadFor_refused "delete" hno hr
  unfold deleteUser
  rw [ht, checkField_ok]
  simp [he, hs]

/-! ## The claimed role is never read -/

section ClaimedRole

variable {c c' : Caller} (h : c'.externalId = c.externalId)
include h

theorem authorizeCaller_congr : authorizeCaller c' = authorizeCaller c := by
  funext target
  simp only [authorizeCaller, h]

theorem isAdmin_congr : isAdmin c' = isAdmin c := by
  simp only [isAdmin, h]

theorem permit_congr (p : Profile) (action : String) :
    permit p (some c') action = permit p (some c) action := by
  simp only [permit, authorizeCaller_congr h]

theorem loadFor_congr (id action : String) :
    loadFor id (some c') action = loadFor id (some c) action := by
  simp only [loadFor, permit_congr h]

theorem currentUser_congr : currentUser (some c') = currentUser (some c) := by
  simp only [currentUser, h]

theorem userById_congr (t : Given) : userById t (some c') = userById t (some c) := by
  simp only [userById, loadFor_congr h]

theorem userByEmail_congr [V : Mail.AddressValidator] (e : Given) : userByEmail e
    (some c') = userByEmail e (some c) := by
  simp only [userByEmail, permit_congr h]

theorem renameUser_congr (t n : Given) : renameUser t n (some c') = renameUser t n (some c) := by
  simp only [renameUser, loadFor_congr h]

theorem deleteUser_congr (t : Given) : deleteUser t (some c') = deleteUser t (some c) := by
  simp only [deleteUser, loadFor_congr h]

end ClaimedRole

/-! ## What ownership decides -/

/-- What ownership decides for a caller in a world, part by part. -/
structure OwnershipDecides [V : Mail.AddressValidator] (w : World) (c : Caller) : Prop where
  /-- resolving the caller answers its resolution, which is a live stored profile if any -/
  resolves : (resolve (.text c.externalId)).exec w = (.ok (resolution w.store c.externalId), w) ∧
    ∀ a, resolution w.store c.externalId = .ok a → a ∈ w.store.profiles ∧ a.deleted = false
  /-- reading by id gives an admitted target and answers not found otherwise -/
  byId : ∀ t id, parseUserId t = .ok id →
    (∀ r, Admitted w.store c id r → (userById t (some c)).exec w = (.ok (.ok r), w)) ∧
    ((¬ ∃ r, Admitted w.store c id r) →
      ((userById t (some c)).exec w).1 = .ok (.error .notFound) ∧
      ((userById t (some c)).exec w).2.store = w.store)
  /-- reading by email gives the profile found when the caller may act on it -/
  byEmail : ∀ e n, normalizeEmailField e = .ok n →
    (∀ r, emailTarget w.store n = some r → MayAct w.store c r.id →
      (userByEmail e (some c)).exec w = (.ok (.ok r), w)) ∧
    ((¬ ∃ r, emailTarget w.store n = some r ∧ MayAct w.store c r.id) →
      ((userByEmail e (some c)).exec w).1 = .ok (.error .notFound) ∧
      ((userByEmail e (some c)).exec w).2.store = w.store)
  /-- renaming writes an admitted target renamed, and answers not found otherwise -/
  rename : ∀ t id n name, parseUserId t = .ok id → normalizeDisplayName n = .ok name →
    (∀ r, Admitted w.store c id r →
      ((renameUser t n (some c)).exec w).1 = .ok (.ok (r.rename name w.clock)) ∧
      ((renameUser t n (some c)).exec w).2.store.profiles =
        Store.put w.store.profiles (r.rename name w.clock)) ∧
    ((¬ ∃ r, Admitted w.store c id r) →
      ((renameUser t n (some c)).exec w).1 = .ok (.error .notFound) ∧
      ((renameUser t n (some c)).exec w).2.store = w.store)
  /-- deleting marks an admitted target deleted, and answers not found otherwise -/
  delete : ∀ t id, parseUserId t = .ok id →
    (∀ r, Admitted w.store c id r →
      ((deleteUser t (some c)).exec w).1 = .ok (.ok (r.markDeleted w.clock)) ∧
      ((deleteUser t (some c)).exec w).2.store.profiles =
        Store.put w.store.profiles (r.markDeleted w.clock)) ∧
    ((¬ ∃ r, Admitted w.store c id r) →
      ((deleteUser t (some c)).exec w).1 = .ok (.error .notFound) ∧
      ((deleteUser t (some c)).exec w).2.store = w.store)
  /-- the administrator gate holds exactly for a caller that resolves to an administrator -/
  admin : ∃ b, (isAdmin c).exec w = (.ok b, w) ∧
    (b = true ↔ ∃ a, resolution w.store c.externalId = .ok a ∧ a.role = .admin)
  /-- deciding with the resolved role is deciding for the caller -/
  authorize : ∀ target, (authorize (.text c.externalId)
      (storedRole (resolution w.store c.externalId)) target).exec w =
    (authorizeCaller c target).exec w
  /-- a caller with the same external id and any claimed role runs every operation alike -/
  claimIgnored : ∀ c' : Caller, c'.externalId = c.externalId →
    currentUser (some c') = currentUser (some c) ∧ isAdmin c' = isAdmin c ∧
    authorizeCaller c' = authorizeCaller c ∧
    (∀ t, userById t (some c') = userById t (some c)) ∧
    (∀ e, userByEmail e (some c') = userByEmail e (some c)) ∧
    (∀ t n, renameUser t n (some c') = renameUser t n (some c)) ∧
    (∀ t, deleteUser t (some c') = deleteUser t (some c))

/-- With no store failure armed, a caller reads a profile by id or by email, renames it or deletes
it exactly when the profile is live and the caller resolves to a live administrator or to that
very profile; any other caller is answered not found and the store is left as it was. The
administrator gate and `authorize` with the resolved role decide from the stored role alone, and
the role a caller claims changes nothing at all. -/
theorem ownership_decides_access [V : Mail.AddressValidator] (w : World) (c : Caller)
    (hr : w.store.readFailure = none)
    (hw : w.store.writeFailure = none) : OwnershipDecides w c where
  resolves := ⟨exec_resolve_text _ hr, fun _ h => resolution_live h⟩
  byId t id ht :=
    ⟨fun _ hadm => (exec_userById ht _ hr).trans (exec_loadFor_admitted "read" hadm hr),
      fun hno => exec_userById_refused ht hr hno⟩
  byEmail e n hn := by
    rcases exec_userByEmail_caller (c := c) hn hr with ⟨r, ⟨hf, hm⟩, he⟩ | ⟨hno, w', he, hs⟩
    · refine ⟨fun r' hf' _ => ?_, fun hno => absurd ⟨r, hf, hm⟩ hno⟩
      rw [he, Option.some.inj (hf.symm.trans hf')]
    · refine ⟨fun r hf hm => absurd ⟨r, hf, hm⟩ hno, fun _ => ?_⟩
      rw [he]
      exact ⟨rfl, hs⟩
  rename t id n name ht hn :=
    ⟨fun _ hadm => exec_renameUser_admitted ht hn hr hw hadm,
      fun hno => exec_renameUser_refused ht hn hr hno⟩
  delete t id ht :=
    ⟨fun _ hadm => exec_deleteUser_admitted ht hr hw hadm,
      fun hno => exec_deleteUser_refused ht hr hno⟩
  admin := exec_isAdmin hr
  authorize target := exec_authorize_storedRole target hr
  claimIgnored c' h :=
    ⟨currentUser_congr h, isAdmin_congr h, authorizeCaller_congr h, userById_congr h,
      userByEmail_congr h, renameUser_congr h, deleteUser_congr h⟩

/-- In the sample world, with Ann, Cy and their administrator Bob, ownership decides for Ann
claiming the administrator role and for Bob claiming none. -/
theorem ownership_decides_access_sample :
    let w : World := { store := Sample.store }
    w.store.readFailure = none ∧ w.store.writeFailure = none ∧
      OwnershipDecides (V := Session.emailValidator) w ⟨Sample.ann.externalId, .admin⟩ ∧
      OwnershipDecides (V := Session.emailValidator) w ⟨Sample.bob.externalId, .user⟩ :=
  ⟨rfl, rfl, ownership_decides_access (V := Session.emailValidator) _ _ rfl rfl,
    ownership_decides_access (V := Session.emailValidator) _ _ rfl rfl⟩

end UserDirectory.Account
