import UserDirectory.Proofs.IdText
import UserDirectory.Proofs.Ownership
import UserDirectory.Web.App

/-!
# Hidden targets

A caller that does not resolve to an administrator may act on its own profile only. Every other
target is hidden from it, and reading it by id or by email, renaming it or deleting it answers as
if there were no such profile: another user's live profile, a deleted profile and a missing one
give the same result. None of them writes, so the store keeps its profiles, its write counts and
an armed write failure; an armed read failure is consumed by the first read in every case.

The single-run lemmas compute what an operation answers on a hidden target: a value that depends
on the store's read failure slot alone (`hiddenOutcome`). They split on that slot. With a read
failure armed, the load fails before the target is looked at; with none, the operation refuses
the target as the ownership lemmas say (`exec_userById_refused` and its kin). The two-run
statement, `hidden_targets_indistinguishable`, follows for the operations, and for the service's
routes, whose response is a function of what the operation answers.
-/

namespace UserDirectory.Account

open Act

/-! ## Runs that reveal nothing -/

/-- What an operation answers on a target hidden from its caller: an infrastructure failure when
a read failure is armed, and not found otherwise. -/
def hiddenOutcome (s : Store) : Outcome Profile :=
  match s.readFailure with
  | some _ => .error .infrastructure
  | none => .error .notFound

/-- `s'` holds the profiles, the write counts and the armed write failure of `s`. -/
structure Store.SameRecords (s' s : Store) : Prop where
  profiles : s'.profiles = s.profiles
  adds : s'.adds = s.adds
  updates : s'.updates = s.updates
  softDeletes : s'.softDeletes = s.softDeletes
  writeFailure : s'.writeFailure = s.writeFailure

theorem Store.SameRecords.refl (s : Store) : s.SameRecords s := ⟨rfl, rfl, rfl, rfl, rfl⟩

theorem Store.SameRecords.disarmRead (s : Store) : { s with readFailure := none }.SameRecords s :=
  ⟨rfl, rfl, rfl, rfl, rfl⟩

theorem Store.disarmRead_of_none {s : Store} (h : s.readFailure = none) :
    { s with readFailure := none } = s := by
  cases s
  simp_all

/-- A run answers `hiddenOutcome` and leaves the store with only its read failure consumed. -/
def AnswersHidden (x : Act (Outcome Profile)) (w : World) : Prop :=
  (x.exec w).1 = .ok (hiddenOutcome w.store) ∧
    (x.exec w).2.store = { w.store with readFailure := none }

/-- Two runs from one world that answer alike, leave the same store, and write nothing. -/
structure Indistinguishable {α : Type} (x y : Act α) (w : World) : Prop where
  result : (x.exec w).1 = (y.exec w).1
  store : (x.exec w).2.store = (y.exec w).2.store
  records : (x.exec w).2.store.SameRecords w.store

variable {w : World} {c : Caller} {id : String}

theorem AnswersHidden.of_refused {x : Act (Outcome Profile)} (hr : w.store.readFailure = none)
    (h : (x.exec w).1 = .ok (.error .notFound) ∧ (x.exec w).2.store = w.store) :
    AnswersHidden x w :=
  ⟨by rw [h.1, hiddenOutcome, hr], by rw [h.2, Store.disarmRead_of_none hr]⟩

theorem Indistinguishable.of_answersHidden {x y : Act (Outcome Profile)}
    (hx : AnswersHidden x w) (hy : AnswersHidden y w) : Indistinguishable x y w where
  result := hx.1.trans hy.1.symm
  store := hx.2.trans hy.2.symm
  records := hx.2 ▸ Store.SameRecords.disarmRead w.store

theorem Indistinguishable.of_eq {α : Type} {x y : Act α} (h : x = y)
    (hs : (x.exec w).2.store.SameRecords w.store) : Indistinguishable x y w where
  result := h ▸ rfl
  store := h ▸ rfl
  records := hs

/-! ## One run on a hidden target -/

theorem exec_loadFor_armed {m : Text} (caller : Option Caller) (action : String)
    (hr : w.store.readFailure = some m) :
    (loadFor id caller action).exec w =
      (.error (.storeFailed m), { w with store := { w.store with readFailure := none } }) := by
  unfold loadFor
  simp [Store.getById, Store.reading_of_some _ hr]
  rfl

variable {t : Given}

theorem answersHidden_userById (ht : parseUserId t = .ok id)
    (hno : ¬ ∃ r, Admitted w.store c id r) : AnswersHidden (userById t (some c)) w := by
  cases hr : w.store.readFailure with
  | some m =>
    unfold userById
    rw [ht, checkField_ok]
    simp [AnswersHidden, exec_loadFor_armed _ _ hr, hiddenOutcome, hr]
  | none => exact .of_refused hr (exec_userById_refused ht hr hno)

variable {n : Given} {name : Text}

theorem answersHidden_renameUser (ht : parseUserId t = .ok id)
    (hn : normalizeDisplayName n = .ok name) (hno : ¬ ∃ r, Admitted w.store c id r) :
    AnswersHidden (renameUser t n (some c)) w := by
  cases hr : w.store.readFailure with
  | some m =>
    unfold renameUser
    rw [ht, checkField_ok, hn, checkField_ok]
    simp [AnswersHidden, exec_loadFor_armed _ _ hr, hiddenOutcome, hr]
  | none => exact .of_refused hr (exec_renameUser_refused ht hn hr hno)

theorem renameUser_name_error {e : FieldError} (ht : parseUserId t = .ok id)
    (hn : normalizeDisplayName n = .error e) (caller : Option Caller) :
    renameUser t n caller =
      if e.refuses then pure (.error (.validation e.message)) else throw e.toFault := by
  unfold renameUser
  rw [ht, checkField_ok, hn, checkField_error]

theorem answersHidden_deleteUser (ht : parseUserId t = .ok id)
    (hno : ¬ ∃ r, Admitted w.store c id r) : AnswersHidden (deleteUser t (some c)) w := by
  cases hr : w.store.readFailure with
  | some m =>
    unfold deleteUser
    rw [ht, checkField_ok]
    simp [AnswersHidden, exec_loadFor_armed _ _ hr, hiddenOutcome, hr]
  | none => exact .of_refused hr (exec_deleteUser_refused ht hr hno)

theorem answersHidden_userByEmail [V : Mail.AddressValidator] {e : Given} {m : String}
    (hm : normalizeEmailField e = .ok m)
    (hno : ¬ ∃ r, emailTarget w.store m = some r ∧ MayAct w.store c r.id) :
    AnswersHidden (userByEmail e (some c)) w := by
  cases hr : w.store.readFailure with
  | some f =>
    unfold userByEmail
    rw [hm, checkField_ok]
    simp [AnswersHidden, Store.getByEmail, Store.reading_of_some _ hr, hiddenOutcome, hr]
  | none =>
    rcases exec_userByEmail_caller (c := c) hm hr with ⟨r, hadm, _⟩ | ⟨_, w', he, hs⟩
    · exact absurd ⟨r, hadm⟩ hno
    · exact .of_refused hr ⟨by rw [he], by rw [he]; exact hs⟩

/-! ## Targets hidden from a caller -/

/-- `id` is not the id of the profile the caller resolves to. -/
def NotOwnId (s : Store) (c : Caller) (id : String) : Prop :=
  ∀ a, resolution s c.externalId = .ok a → a.id ≠ id

/-- The profile the caller resolves to does not have the email a read by `m` looks for: `m`
stripped and lower-cased, as the store compares it. -/
def NotOwnEmail (s : Store) (c : Caller) (m : String) : Prop :=
  ∀ a, resolution s c.externalId = .ok a → Text.ofString a.email ≠ (Text.ofString m).strip.lower

section NoAdmin

variable {s : Store} (hadmin : ¬ ∃ a, resolution s c.externalId = .ok a ∧ a.role = .admin)
include hadmin

theorem not_mayAct (hown : NotOwnId s c id) : ¬ MayAct s c id := by
  rintro ⟨a, ha, hrole | hid⟩
  · exact hadmin ⟨a, ha, hrole⟩
  · exact hown a ha hid

theorem not_admitted (hown : NotOwnId s c id) : ¬ ∃ r, Admitted s c id r := by
  rintro ⟨r, hf, -, hm⟩
  rw [Store.find?_id hf] at hm
  exact not_mayAct hadmin hown hm

theorem emailTarget_not_mayAct {m : String} (hids : (s.profiles.map (·.id)).Nodup)
    (hown : NotOwnEmail s c m) : ¬ ∃ r, emailTarget s m = some r ∧ MayAct s c r.id := by
  rintro ⟨r, hr, a, ha, hrole | hid⟩
  · exact hadmin ⟨a, ha, hrole⟩
  · obtain ⟨hmem, -, hkey⟩ := emailTarget_spec hr
    have heq : a = r := List.inj_on_of_nodup_map hids (resolution_live ha).1 hmem hid
    exact hown a ha (heq ▸ hkey)

end NoAdmin

end UserDirectory.Account

namespace UserDirectory.Web

open UserDirectory.Json UserDirectory.Account Act

/-! ## Routes -/

variable {r r₁ r₂ : Request} {c : Caller}

theorem header?_congr (h : r₁.headers = r₂.headers) : r₁.header? = r₂.header? := by
  funext name
  simp only [Request.header?, h]

theorem authenticate_congr [F : Web.Framework]
    (h : r₁.headers = r₂.headers) : authenticate r₁ = authenticate r₂ := by
  simp only [authenticate, header?_congr h]

theorem withCaller_congr [F : Web.Framework]
    (h : r₁.headers = r₂.headers) : withCaller r₁ = withCaller r₂ := by
  funext k
  simp only [withCaller, authenticate_congr h]

theorem withBody_congr [F : Web.Framework] (hh : r₁.headers = r₂.headers) (hb : r₁.body = r₂.body) :
    withBody r₁ = withBody r₂ := by
  funext k
  simp only [withBody, header?_congr hh, hb]

/-- The response `serve` sends for what an action answered. -/
def served : Except Fault Response → Response
  | .ok resp => if (resp.body.map Value.encodable).getD true then resp else unexpectedError
  | .error _ => unexpectedError

theorem exec_serve_fst [V : Mail.AddressValidator] [F : Web.Framework] (r : Request) (a : Action)
    (ps : List String) (w : World) :
    ((serve r a ps).exec w).1 = .ok (served ((serveAction r a ps).exec w).1) := by
  unfold serve
  simp only [exec_bind, exec_attempt]
  rcases (serveAction r a ps).exec w with ⟨_ | resp, w'⟩
  · rfl
  · simp [served]

theorem serveAction_userById [V : Mail.AddressValidator] [F : Web.Framework]
    (hc : authenticate r = .ok c) (p : String) :
    serveAction r .userById [p] = profileResponse 200 <$> userById (Given.ofString p) (some c) := by
  simp only [serveAction, withCaller, hc, List.headD]

theorem serveAction_deleteUser [V : Mail.AddressValidator] [F : Web.Framework]
    (hc : authenticate r = .ok c) (p : String) :
    serveAction r .deleteUser [p] =
      deletionResponse <$> deleteUser (Given.ofString p) (some c) := by
  simp only [serveAction, withCaller, hc, List.headD]

theorem serveAction_userByEmail [V : Mail.AddressValidator] [F : Web.Framework]
    (hc : authenticate r = .ok c) (p : String) :
    serveAction r .userByEmail [p] =
      profileResponse 200 <$> userByEmail (Given.ofString p) (some c) := by
  simp only [serveAction, withCaller, hc, List.headD]

theorem serveAction_renameUser [V : Mail.AddressValidator] [F : Web.Framework]
    (hc : authenticate r = .ok c) :
    (∃ resp, ∀ p, serveAction r .renameUser [p] = pure resp) ∨
      ∃ n, ∀ p, serveAction r .renameUser [p] =
        profileResponse 200 <$> renameUser (Given.ofString p) n (some c) := by
  unfold serveAction withBody
  cases Framework.payload (r.header? "content-type") r.body with
  | error e => cases e <;> exact .inl ⟨_, fun _ => rfl⟩
  | ok pl =>
    simp only [withCaller, hc, withFields]
    cases pl.fields ["new_name"] with
    | none => exact .inl ⟨_, fun _ => rfl⟩
    | some vs => exact .inr ⟨_, fun _ => rfl⟩

theorem serveAction_congr [V : Mail.AddressValidator] [F : Web.Framework]
    (hh : r₁.headers = r₂.headers) (hb : r₁.body = r₂.body) {a : Action}
    (ha : a ≠ .listUsers) (ps : List String) : serveAction r₁ a ps = serveAction r₂ a ps := by
  cases a
  case listUsers => exact absurd rfl ha
  all_goals simp only [serveAction, withBody_congr hh hb, withCaller_congr hh]

end UserDirectory.Web

namespace UserDirectory.Account

open Act

/-! ## Two targets hidden from one caller -/

variable {w : World} {c : Caller}

section NoAdmin

variable (hadmin : ¬ ∃ a, resolution w.store c.externalId = .ok a ∧ a.role = .admin)
include hadmin

section ById

variable {t₁ t₂ : Given} {id₁ id₂ : String}
  (h₁ : parseUserId t₁ = .ok id₁) (h₂ : parseUserId t₂ = .ok id₂)
  (o₁ : NotOwnId w.store c id₁) (o₂ : NotOwnId w.store c id₂)
include h₁ h₂ o₁ o₂

theorem userById_indistinguishable :
    Indistinguishable (userById t₁ (some c)) (userById t₂ (some c)) w :=
  .of_answersHidden (answersHidden_userById h₁ (not_admitted hadmin o₁))
    (answersHidden_userById h₂ (not_admitted hadmin o₂))

theorem deleteUser_indistinguishable :
    Indistinguishable (deleteUser t₁ (some c)) (deleteUser t₂ (some c)) w :=
  .of_answersHidden (answersHidden_deleteUser h₁ (not_admitted hadmin o₁))
    (answersHidden_deleteUser h₂ (not_admitted hadmin o₂))

theorem renameUser_indistinguishable (n : Given) :
    Indistinguishable (renameUser t₁ n (some c)) (renameUser t₂ n (some c)) w := by
  cases hn : normalizeDisplayName n with
  | ok name =>
    exact .of_answersHidden (answersHidden_renameUser h₁ hn (not_admitted hadmin o₁))
      (answersHidden_renameUser h₂ hn (not_admitted hadmin o₂))
  | error e =>
    refine .of_eq (by rw [renameUser_name_error h₁ hn, renameUser_name_error h₂ hn]) ?_
    rw [renameUser_name_error h₁ hn]
    split <;> exact .refl _

theorem routesById_indistinguishable [V : Mail.AddressValidator] [F : Web.Framework]
    {r₁ r₂ : Web.Request} {p₁ p₂ : String}
    (hh : r₁.headers = r₂.headers) (hb : r₁.body = r₂.body) (hc : Web.authenticate r₁ = .ok c)
    (ht₁ : t₁ = .ofString p₁) (ht₂ : t₂ = .ofString p₂) {a : Web.Action}
    (ha : a ∈ [Web.Action.userById, .renameUser, .deleteUser]) :
    ((Web.serve r₁ a [p₁]).exec w).1 = ((Web.serve r₂ a [p₂]).exec w).1 := by
  have hne : a ≠ .listUsers := by
    rintro rfl
    simp at ha
  rw [Web.exec_serve_fst, Web.exec_serve_fst, ← Web.serveAction_congr hh hb hne]
  subst ht₁ ht₂
  simp only [List.mem_cons, List.not_mem_nil, or_false] at ha
  rcases ha with rfl | rfl | rfl
  · simp only [Web.serveAction_userById hc, exec_map_fst,
      (userById_indistinguishable hadmin h₁ h₂ o₁ o₂).result]
  · rcases Web.serveAction_renameUser hc with ⟨resp, hs⟩ | ⟨n, hs⟩
    · rw [hs, hs]
    · simp only [hs, exec_map_fst, (renameUser_indistinguishable hadmin h₁ h₂ o₁ o₂ n).result]
  · simp only [Web.serveAction_deleteUser hc, exec_map_fst,
      (deleteUser_indistinguishable hadmin h₁ h₂ o₁ o₂).result]

end ById

section ByEmail

variable [V : Mail.AddressValidator]
  (hids : (w.store.profiles.map (·.id)).Nodup) {e₁ e₂ : Given} {m₁ m₂ : String}
  (h₁ : normalizeEmailField e₁ = .ok m₁) (h₂ : normalizeEmailField e₂ = .ok m₂)
  (o₁ : NotOwnEmail w.store c m₁) (o₂ : NotOwnEmail w.store c m₂)
include hids h₁ h₂ o₁ o₂

theorem userByEmail_indistinguishable :
    Indistinguishable (userByEmail e₁ (some c)) (userByEmail e₂ (some c)) w :=
  .of_answersHidden (answersHidden_userByEmail h₁ (emailTarget_not_mayAct hadmin hids o₁))
    (answersHidden_userByEmail h₂ (emailTarget_not_mayAct hadmin hids o₂))

theorem routeByEmail_indistinguishable [F : Web.Framework] {r₁ r₂ : Web.Request} {p₁ p₂ : String}
    (hh : r₁.headers = r₂.headers) (hb : r₁.body = r₂.body) (hc : Web.authenticate r₁ = .ok c)
    (he₁ : e₁ = .ofString p₁) (he₂ : e₂ = .ofString p₂) :
    ((Web.serve r₁ .userByEmail [p₁]).exec w).1 = ((Web.serve r₂ .userByEmail [p₂]).exec w).1 := by
  rw [Web.exec_serve_fst, Web.exec_serve_fst, ← Web.serveAction_congr hh hb (by decide)]
  subst he₁ he₂
  simp only [Web.serveAction_userByEmail hc, exec_map_fst,
    (userByEmail_indistinguishable hadmin hids h₁ h₂ o₁ o₂).result]

end ByEmail

end NoAdmin

/-- What a caller that resolves to no administrator learns about targets other than its own
profile: nothing. Any two of them, named by id or by email, get the same answer from each
operation and the same response from each route; both runs end with the same store, and neither
writes. -/
structure HiddenTargets [V : Mail.AddressValidator] [F : Web.Framework] (w : World)
    (c : Caller) : Prop where
  byId : ∀ (t₁ t₂ : Given) (id₁ id₂ : String), parseUserId t₁ = .ok id₁ →
    parseUserId t₂ = .ok id₂ → NotOwnId w.store c id₁ → NotOwnId w.store c id₂ →
    Indistinguishable (userById t₁ (some c)) (userById t₂ (some c)) w
  rename : ∀ (n t₁ t₂ : Given) (id₁ id₂ : String), parseUserId t₁ = .ok id₁ →
    parseUserId t₂ = .ok id₂ → NotOwnId w.store c id₁ → NotOwnId w.store c id₂ →
    Indistinguishable (renameUser t₁ n (some c)) (renameUser t₂ n (some c)) w
  delete : ∀ (t₁ t₂ : Given) (id₁ id₂ : String), parseUserId t₁ = .ok id₁ →
    parseUserId t₂ = .ok id₂ → NotOwnId w.store c id₁ → NotOwnId w.store c id₂ →
    Indistinguishable (deleteUser t₁ (some c)) (deleteUser t₂ (some c)) w
  byEmail : ∀ (e₁ e₂ : Given) (m₁ m₂ : String), normalizeEmailField e₁ = .ok m₁ →
    normalizeEmailField e₂ = .ok m₂ → NotOwnEmail w.store c m₁ → NotOwnEmail w.store c m₂ →
    Indistinguishable (userByEmail e₁ (some c)) (userByEmail e₂ (some c)) w
  /-- `GET /users/{id}`, `PUT /users/{id}/name` and `DELETE /users/{id}`, for two requests by the
  caller with the same headers and body. -/
  routesById : ∀ (r₁ r₂ : Web.Request) (p₁ p₂ id₁ id₂ : String), r₁.headers = r₂.headers →
    r₁.body = r₂.body → Web.authenticate r₁ = .ok c →
    parseUserId (.ofString p₁) = .ok id₁ → parseUserId (.ofString p₂) = .ok id₂ →
    NotOwnId w.store c id₁ → NotOwnId w.store c id₂ →
    ∀ a ∈ [Web.Action.userById, .renameUser, .deleteUser],
      ((Web.serve r₁ a [p₁]).exec w).1 = ((Web.serve r₂ a [p₂]).exec w).1
  /-- `GET /users/email/{email}`, for two requests by the caller with the same headers and
  body. -/
  routeByEmail : ∀ (r₁ r₂ : Web.Request) (p₁ p₂ m₁ m₂ : String), r₁.headers = r₂.headers →
    r₁.body = r₂.body → Web.authenticate r₁ = .ok c →
    normalizeEmailField (.ofString p₁) = .ok m₁ → normalizeEmailField (.ofString p₂) = .ok m₂ →
    NotOwnEmail w.store c m₁ → NotOwnEmail w.store c m₂ →
      ((Web.serve r₁ .userByEmail [p₁]).exec w).1 = ((Web.serve r₂ .userByEmail [p₂]).exec w).1

/-- Targets other than its own profile are indistinguishable to a caller that resolves to no
administrator, in any world, with any read or write failure armed. Emails need distinct ids:
a profile sharing the caller's id would pass as the caller's own. -/
theorem hidden_targets_indistinguishable [V : Mail.AddressValidator] [F : Web.Framework]
    (w : World) (c : Caller)
    (hadmin : ¬ ∃ a, resolution w.store c.externalId = .ok a ∧ a.role = .admin)
    (hids : (w.store.profiles.map (·.id)).Nodup) : HiddenTargets w c where
  byId _ _ _ _ h₁ h₂ o₁ o₂ := userById_indistinguishable hadmin h₁ h₂ o₁ o₂
  rename n _ _ _ _ h₁ h₂ o₁ o₂ := renameUser_indistinguishable hadmin h₁ h₂ o₁ o₂ n
  delete _ _ _ _ h₁ h₂ o₁ o₂ := deleteUser_indistinguishable hadmin h₁ h₂ o₁ o₂
  byEmail _ _ _ _ h₁ h₂ o₁ o₂ := userByEmail_indistinguishable hadmin hids h₁ h₂ o₁ o₂
  routesById _ _ _ _ _ _ hh hb hc h₁ h₂ o₁ o₂ _ ha :=
    routesById_indistinguishable hadmin h₁ h₂ o₁ o₂ hh hb hc rfl rfl ha
  routeByEmail _ _ _ _ _ _ hh hb hc h₁ h₂ o₁ o₂ :=
    routeByEmail_indistinguishable hadmin hids h₁ h₂ o₁ o₂ hh hb hc rfl rfl

/-- The sample world with Ann calling and claiming to be an administrator: the claim counts for
nothing, and Cy's live profile is as hidden from her as her own deleted first profile. -/
theorem hidden_targets_indistinguishable_sample :
    let w : World := { store := Sample.store }
    let c : Caller := ⟨Sample.ann.externalId, .admin⟩
    (¬ ∃ a, resolution w.store c.externalId = .ok a ∧ a.role = .admin) ∧
      (w.store.profiles.map (·.id)).Nodup ∧
      HiddenTargets (V := Session.emailValidator) (F := Session.webFramework) w c ∧
      Indistinguishable (userById (.ofString Sample.cy.id) (some c))
        (userById (.ofString Sample.annOld.id) (some c)) w := by
  intro w c
  have hres : resolution w.store c.externalId = .ok Sample.ann := by decide
  have hadmin : ¬ ∃ a, resolution w.store c.externalId = .ok a ∧ a.role = .admin := by
    rintro ⟨a, ha, hrole⟩
    rw [hres, Except.ok.injEq] at ha
    subst ha
    exact absurd hrole (by decide)
  have hids : (w.store.profiles.map (·.id)).Nodup := by decide
  have notOwn : ∀ id, id ≠ Sample.ann.id → NotOwnId w.store c id := by
    intro id hne a ha
    rw [hres, Except.ok.injEq] at ha
    subst ha
    exact hne.symm
  have hidden := hidden_targets_indistinguishable (V := Session.emailValidator)
    (F := Session.webFramework) w c hadmin hids
  have hcy : Sample.cy.id = (Ident.Uuid.ofNat 3).text := by decide
  have hold : Sample.annOld.id = (Ident.Uuid.ofNat 4).text := by decide
  refine ⟨hadmin, hids, hidden, ?_⟩
  obtain ⟨byId, -, -, -, -, -⟩ := hidden
  refine byId _ _ Sample.cy.id Sample.annOld.id ?_ ?_ (notOwn _ (by decide)) (notOwn _ (by decide))
  · rw [hcy]
    exact parseUserId_text _
  · rw [hold]
    exact parseUserId_text _

end UserDirectory.Account
