import UserDirectory.Proofs.IdText
import UserDirectory.Proofs.Outcomes

/-!
# Seeding the administrator twice

Seeding runs at every start, so a second run over the world the first one left must neither
repeat nor undo it (`seeding_converges`).

The identity provider keys identities by the email stripped and lower-cased. After a call of
`ensure` the identity under the key is settled (`Settled`): it is the one looked up, every entry
under the key is it, and it has the administrator claim, since setting a claim twice is setting it
once (`setClaim_setClaim`). A later call answers the same uid and only counts itself
(`exec_ensureAdmin_settled`).

A seeding that answered `existing` found a live profile with the email and changed no profile, so
the next one finds it again. A seeding that answered `provisioned` stored an administrator whose
email is the accepted email checked again, since making a profile checks the email it is handed
(`Provisioning`). The next seeding looks for the accepted email stripped and lower-cased. When the
twice-checked email is that key (`SeedEmailReadsBack`) the administrator is found. Otherwise no
profile is found, the provider answers the same uid, and adding a second administrator with that
external id clashes, unless making it fails first: seeding stops with a fault. Checking an email
again need not give it back: lower-casing `İ` gives `i` and U+0307 after the composition step, so
a mark of a lower combining class that followed it (U+05C1) is out of canonical order until the
email is checked once more.
-/

namespace UserDirectory.Account

open Act

/-! ## Claims -/

theorem lookup_of_keyed {α β : Type} [DecidableEq α] {k : α} {v : β} :
    ∀ {l : List (α × β)}, (∀ e ∈ l, e.1 = k → e.2 = v) → (∃ e ∈ l, e.1 = k) →
      l.lookup k = some v
  | [], _, ⟨_, he, _⟩ => absurd he List.not_mem_nil
  | (a, b) :: l, hall, ⟨e, he, hk⟩ => by
    rw [List.lookup_cons]
    by_cases ha : a = k
    · subst ha
      rw [beq_self_eq_true]
      exact congrArg some (hall _ List.mem_cons_self rfl)
    · rw [beq_false_of_ne (Ne.symm ha)]
      refine lookup_of_keyed (fun e he => hall e (List.mem_cons_of_mem _ he)) ⟨e, ?_, hk⟩
      rcases List.mem_cons.mp he with rfl | he
      · exact absurd hk ha
      · exact he

section Claims

variable (cs : List (String × String)) (k v : String)

theorem setClaim_keyed : ∀ c ∈ setClaim cs k v, c.1 = k → c = (k, v) := by
  intro c hc hk
  unfold setClaim at hc
  split at hc
  · obtain ⟨c₀, -, rfl⟩ := List.mem_map.mp hc
    by_cases h : c₀.1 = k
    · simp [h]
    · simp [h] at hk
  · rename_i hnone
    rcases List.mem_append.mp hc with hc | hc
    · exact absurd (List.any_eq_true.mpr ⟨c, hc, by simp [hk]⟩) hnone
    · exact List.mem_singleton.mp hc

theorem setClaim_any : (setClaim cs k v).any (·.1 == k) = true := by
  refine List.any_eq_true.mpr ?_
  unfold setClaim
  split
  · rename_i h
    obtain ⟨c, hc, hck⟩ := List.any_eq_true.mp h
    exact ⟨_, List.mem_map_of_mem hc, by simp_all⟩
  · exact ⟨(k, v), by simp, by simp⟩

theorem setClaim_setClaim : setClaim (setClaim cs k v) k v = setClaim cs k v := by
  rw [setClaim, if_pos (setClaim_any cs k v)]
  conv_rhs => rw [← List.map_id (setClaim cs k v)]
  refine List.map_congr_left fun c hc => ?_
  by_cases h : c.1 = k
  · simp [setClaim_keyed cs k v c hc h]
  · simp [h]

theorem lookup_setClaim : (setClaim cs k v).lookup k = some v := by
  refine lookup_of_keyed (fun c hc hk => by rw [setClaim_keyed cs k v c hc hk]) ?_
  obtain ⟨c, hc, hck⟩ := List.any_eq_true.mp (setClaim_any cs k v)
  exact ⟨c, hc, by simpa using hck⟩

end Claims

/-! ## The identity provider -/

/-- The world with one more call of `ensure` counted at the provider. -/
def World.ensureCounted (w : World) : World :=
  { w with provider := { w.provider with ensureCalls := w.provider.ensureCalls + 1 } }

/-- The world whose provider holds the identities `ids`. -/
def World.withIdentities (w : World) (ids : List (Text × Identity)) : World :=
  { w with provider := { w.provider with identities := ids } }

/-- The identity with the administrator claim set. -/
def Identity.admin (i : Identity) : Identity :=
  { i with claims := setClaim i.claims "role" "admin" }

/-- The identities with every entry under `key` replaced by `(key, i)`. -/
def settle (ids : List (Text × Identity)) (key : Text) (i : Identity) : List (Text × Identity) :=
  ids.map fun e => if e.1 == key then (key, i) else e

/-- Every uid the provider holds is an external id as it stands: normalizing it gives it back. -/
def Provider.UidsStand (p : Provider) : Prop :=
  ∀ e ∈ p.identities, normalizeExternalId (.ofString e.2.uid) = .ok (Text.ofString e.2.uid)

/-- The identities hold `i` under `key`, settled: `i` is the identity looked up, every entry under
the key is `i`, and `i` has the administrator claim already. -/
structure Settled (ids : List (Text × Identity)) (key : Text) (i : Identity) : Prop where
  lookup : ids.lookup key = some i
  keyed : ∀ e ∈ ids, e.1 = key → e.2 = i
  admin : i.admin = i

theorem Identity.admin_admin (i : Identity) : i.admin.admin = i.admin := by
  simp [Identity.admin, setClaim_setClaim]

theorem Settled.role {ids : List (Text × Identity)} {key : Text} {i : Identity}
    (h : Settled ids key i) : i.claims.lookup "role" = some "admin" := by
  rw [← h.admin]
  exact lookup_setClaim _ _ _

section Settle

variable {ids : List (Text × Identity)} {key : Text} {i : Identity}

theorem settle_self (h : ∀ e ∈ ids, e.1 = key → e.2 = i) : settle ids key i = ids := by
  conv_rhs => rw [← List.map_id ids]
  refine List.map_congr_left fun e he => ?_
  by_cases hk : e.1 = key
  · rw [if_pos (beq_iff_eq.mpr hk), ← hk, ← h e he hk]
    rfl
  · rw [if_neg (by simpa using hk)]
    rfl

theorem settled_settle (hk : ∃ e ∈ ids, e.1 = key) (ha : i.admin = i) :
    Settled (settle ids key i) key i := by
  have keyed : ∀ e ∈ settle ids key i, e.1 = key → e.2 = i := by
    intro e he hek
    obtain ⟨e₀, -, rfl⟩ := List.mem_map.mp he
    by_cases h : e₀.1 = key
    · simp [h]
    · simp [h] at hek
  obtain ⟨e₀, he₀, hek⟩ := hk
  have hmem : (key, i) ∈ settle ids key i := List.mem_map.mpr ⟨e₀, he₀, by simp [hek]⟩
  exact ⟨lookup_of_keyed keyed ⟨(key, i), hmem, rfl⟩, keyed, ha⟩

end Settle

/-! ## The administrator's external id -/

theorem boundedField_text {missing tooLong : FieldError} {limit : Nat} {t : Text}
    (he : t.strip.isEmpty = false) (hl : t.strip.length ≤ limit) :
    boundedField missing tooLong limit (.text t) = .ok t.strip := by
  simp only [boundedField, givenText, Given.orEmpty_text, Except.mapError, bind, Except.bind, he,
    Bool.false_eq_true, if_false, if_neg (Nat.not_lt.mpr hl)]

theorem normalizeExternalId_minted (u : Ident.Uuid) :
    normalizeExternalId (.ofString ("idp-" ++ u.hex)) = .ok (Text.ofString ("idp-" ++ u.hex)) := by
  have hchars : ("idp-" ++ u.hex).toList = ['i', 'd', 'p', '-'] ++ u.digits.map Text.hexDigit := by
    rw [String.toList_append, Ident.Uuid.hex_toList]
    rfl
  have hblank : ∀ c ∈ ("idp-" ++ u.hex).toList, Text.isBlank c = false := by
    rw [hchars]
    intro c hc
    rcases List.mem_append.mp hc with hc | hc
    · simp only [List.mem_cons, List.not_mem_nil, or_false] at hc
      rcases hc with rfl | rfl | rfl | rfl <;> decide
    · obtain ⟨d, hd, rfl⟩ := List.mem_map.mp hc
      obtain ⟨-, -, -, -, -, -, -, -, hb, -⟩ := Ident.hexDigit_facts d (u.digits_lt d hd)
      exact hb
  have hstrip : (Text.ofString ("idp-" ++ u.hex)).strip = Text.ofString ("idp-" ++ u.hex) := by
    rw [Text.ofString, Text.strip_ofChars, Text.stripList, Text.stripBy_of_forall hblank]
  have hlen : (Text.ofString ("idp-" ++ u.hex)).length = 36 := by
    simp [Text.ofString, Text.length, hchars, u.length_digits]
  have hemp : (Text.ofString ("idp-" ++ u.hex)).isEmpty = false := by
    simp [Text.ofString, hchars]
  have hok : normalizeExternalId (.text (Text.ofString ("idp-" ++ u.hex))) =
      .ok (Text.ofString ("idp-" ++ u.hex)).strip :=
    boundedField_text (by rw [hstrip, hemp]) (by rw [hstrip, hlen]; decide)
  rw [hstrip] at hok
  exact hok

section Ensure

variable {w w' : World} {email password name : Given} {key : Text}

theorem providerKey_ofString (m : String) :
    providerKey (.ofString m) = .ok (Text.ofString m).strip.lower := rfl

theorem exec_ensureAdmin (hf : w.provider.failure = none) (hk : providerKey email = .ok key) :
    (ensureAdmin email password name).exec w =
      match w.provider.identities.lookup key with
      | some i =>
        (.ok i.uid, w.ensureCounted.withIdentities (settle w.provider.identities key i.admin))
      | none =>
        match freshId.exec w.ensureCounted with
        | (.error f, w') => (.error f, w')
        | (.ok u, w') =>
          let i : Identity := ⟨"idp-" ++ u.hex, key, name, []⟩
          (.ok i.uid,
            w'.withIdentities (settle (w'.provider.identities ++ [(key, i)]) key i.admin)) := by
  unfold ensureAdmin
  simp only [exec_bind, exec_modify, exec_get, World.ensureCounted, World.withIdentities]
  split
  · rename_i m hm
    rw [hf] at hm
    cases hm
  simp only [hk, exec_pure, exec_bind]
  cases w.provider.identities.lookup key with
  | some i => rfl
  | none =>
    simp only [exec_bind, exec_modify, exec_pure]
    split
    · rename_i heq
      rw [heq]
      rfl
    · rename_i heq
      rw [heq]

theorem exec_ensureAdmin_armed {m : Text} (hf : w.provider.failure = some m) :
    (ensureAdmin email password name).exec w =
      (.error (.providerFailed m),
        { w.ensureCounted with
          provider := { w.ensureCounted.provider with failure := none } }) := by
  unfold ensureAdmin
  simp only [exec_bind, exec_modify, exec_get, hf, exec_set, exec_throw]
  rfl

theorem exec_ensureAdmin_settled {i : Identity} (hf : w.provider.failure = none)
    (hk : providerKey email = .ok key) (hs : Settled w.provider.identities key i) :
    (ensureAdmin email password name).exec w = (.ok i.uid, w.ensureCounted) := by
  rw [exec_ensureAdmin hf hk, hs.lookup]
  dsimp only
  rw [hs.admin, settle_self hs.keyed]
  rfl

/-- What a call of `ensure` that answered `uid` leaves: the store and the events as they were, no
failure armed at the provider, and an identity with that uid settled under the key, whose uid is
an external id as it stands if all the others were. -/
structure Ensured (key : Text) (w w' : World) (uid : String) : Prop where
  store : w'.store = w.store
  events : w'.events = w.events
  failure : w'.provider.failure = none
  settled : ∃ i, Settled w'.provider.identities key i ∧ i.uid = uid
  stands : w.provider.UidsStand → normalizeExternalId (.ofString uid) = .ok (Text.ofString uid)

theorem ensureAdmin_ensured {uid : String} (hk : providerKey email = .ok key)
    (h : (ensureAdmin email password name).exec w = (.ok uid, w')) : Ensured key w w' uid := by
  cases hf : w.provider.failure with
  | some m =>
    rw [exec_ensureAdmin_armed hf] at h
    cases h
  | none =>
    rw [exec_ensureAdmin hf hk] at h
    cases hl : w.provider.identities.lookup key with
    | some i =>
      simp only [hl, Prod.mk.injEq, Except.ok.injEq] at h
      obtain ⟨rfl, rfl⟩ := h
      obtain ⟨l₁, l₂, hids, -⟩ := List.lookup_eq_some_iff.mp hl
      have hmem : (key, i) ∈ w.provider.identities := by simp [hids]
      exact ⟨rfl, rfl, hf, ⟨i.admin, settled_settle ⟨_, hmem, rfl⟩ i.admin_admin, rfl⟩,
        fun hp => hp (key, i) hmem⟩
    | none =>
      rw [hl] at h
      rcases hu : freshId.exec w.ensureCounted with ⟨_ | u, w''⟩ <;> rw [hu] at h
      · cases h
      simp only [Prod.mk.injEq, Except.ok.injEq] at h
      obtain ⟨rfl, rfl⟩ := h
      obtain rfl : w'' = _ := (congrArg Prod.snd hu).symm.trans (freshId_world _)
      let i₀ : Identity := ⟨"idp-" ++ u.hex, key, name, []⟩
      have hmem := List.mem_append_right w.ensureCounted.provider.identities
        (List.mem_singleton_self (key, i₀))
      have hs := settled_settle ⟨_, hmem, rfl⟩ i₀.admin_admin
      exact ⟨rfl, rfl, hf, ⟨_, hs, rfl⟩, fun _ => normalizeExternalId_minted u⟩

end Ensure

/-! ## One seeding -/

/-- Seeding once its checks have passed, with the accepted email, the password handed on and the
stripped display name: the rest of `seedAdmin`. -/
def seedChecked [V : Mail.AddressValidator] (email : String)
    (password name : Given) : Act SeedState := do
  match ← liftStore (Store.getByEmail (Text.ofString email)) with
  | some _ =>
    let _ ← ensureAdmin (Given.ofString email) password name
    return .existing
  | none =>
    let ext ← ensureAdmin (Given.ofString email) password name
    let admin ← createProfile (Given.ofString email) name (Given.ofString ext) .admin
    let created ← liftStore (Store.add admin)
    notify (.mk' .adminSeeded (some created.id) .success [])
    return .provisioned

variable {w : World}

theorem seedAdmin_eq_seedChecked [V : Mail.AddressValidator] {c : SeedConfig} {m : String}
    {t : Text}
    (hen : c.enabled = true) (hc : c.complete = .ok true) (he : normalizeEmailField c.email = .ok m)
    (hn : givenText c.displayName = .ok t) :
    seedAdmin c = seedChecked m (if c.password.present then c.password else Given.ofString "")
      (.text t.strip) := by
  unfold seedAdmin
  simp only [hen, hc, he, hn, requireUse, requireField, Bool.not_true, Bool.false_eq_true, if_false,
    pure_bind]
  rfl

theorem seedAdmin_cases [V : Mail.AddressValidator] (c : SeedConfig) :
    (∃ r, (∀ w, (seedAdmin c).exec w = (r, w)) ∧
      (r = .ok .disabled ∨
        ∃ f, r = .error f ∧
          ∀ msg, f = .invalid msg → ∃ e, normalizeEmailField c.email = .error e)) ∨
    ∃ m t, normalizeEmailField c.email = .ok m ∧ givenText c.displayName = .ok t ∧
      seedAdmin c = seedChecked m (if c.password.present then c.password else Given.ofString "")
        (.text t.strip) := by
  cases hen : c.enabled
  · exact .inl ⟨.ok .disabled, fun w => by rw [seedAdmin, hen]; rfl, .inl rfl⟩
  cases hc : c.complete with
  | error e =>
    exact .inl ⟨.error (.misuse e), fun w => by rw [seedAdmin, hen, hc]; rfl,
      .inr ⟨_, rfl, fun _ h => by cases h⟩⟩
  | ok b =>
    cases b
    · exact .inl ⟨.ok .disabled, fun w => by rw [seedAdmin, hen, hc]; rfl, .inl rfl⟩
    cases he : normalizeEmailField c.email with
    | error e =>
      exact .inl ⟨.error e.toFault,
        fun w => by rw [seedAdmin, hen, hc, he]; rfl,
        .inr ⟨_, rfl, fun _ _ => ⟨e, rfl⟩⟩⟩
    | ok m =>
      cases hn : givenText c.displayName with
      | error e =>
        obtain ⟨k, rfl⟩ : ∃ k, e = .notText k := by
          unfold givenText at hn
          cases ho : c.displayName.orEmpty with
          | error k =>
            rw [ho] at hn
            cases hn
            exact ⟨k, rfl⟩
          | ok t =>
            rw [ho] at hn
            cases hn
        exact .inl ⟨.error (FieldError.notText k).toFault,
          fun w => by rw [seedAdmin, hen, hc, he, hn]; rfl,
          .inr ⟨_, rfl, fun _ h => by cases h⟩⟩
      | ok t => exact .inr ⟨m, t, rfl, rfl, seedAdmin_eq_seedChecked hen hc he hn⟩

theorem seedAdmin_checked [V : Mail.AddressValidator] {c : SeedConfig} {st : SeedState}
    (h : ((seedAdmin c).exec w).1 = .ok st) (hst : st ≠ .disabled) :
    ∃ m t pw, normalizeEmailField c.email = .ok m ∧ givenText c.displayName = .ok t ∧
      seedAdmin c = seedChecked m pw (.text t.strip) := by
  rcases seedAdmin_cases c with ⟨r, hr, rfl | ⟨f, rfl, -⟩⟩ | ⟨m, t, hm, ht, heq⟩
  · rw [hr w] at h
    exact absurd (Except.ok.inj h).symm hst
  · rw [hr w] at h
    cases h
  · exact ⟨m, t, _, hm, ht, heq⟩

/-- How a seeding that passed its checks answered. -/
inductive SeedRun [V : Mail.AddressValidator] (m : String) (pw name : Given)
    (w : World) : SeedState → World → Prop
  /-- a live profile has the email: the provider is asked, and nothing else happens -/
  | existing {uid : String} {w₁ : World} (hr : w.store.readFailure = none)
      (hfound : (emailTarget w.store m).isSome)
      (he : (ensureAdmin (.ofString m) pw name).exec w = (.ok uid, w₁)) :
      SeedRun m pw name w .existing w₁
  /-- none has it: the provider is asked, the administrator is made with its uid and added, and
  `admin.seeded` is reported -/
  | provisioned {uid : String} {w' w'' : World} {admin : Profile}
      (hr : w.store.readFailure = none) (hnone : emailTarget w.store m = none)
      (he : (ensureAdmin (.ofString m) pw name).exec w = (.ok uid, w'))
      (hc : (createProfile (.ofString m) name (.ofString uid) .admin).exec w' = (.ok admin, w''))
      (hw : w''.store.writeFailure = none)
      (hclash : Store.clashOf w''.store.profiles admin = none) :
      SeedRun m pw name w .provisioned
        { w'' with
          store := { w''.store with
            profiles := Store.put w''.store.profiles admin, adds := w''.store.adds + 1 }
          events := w''.events ++ [.mk' .adminSeeded (some admin.id) .success []] }

theorem seedChecked_run [V : Mail.AddressValidator] {m : String} {pw name : Given}
    {st : SeedState} {w₁ : World}
    (h : (seedChecked m pw name).exec w = (.ok st, w₁)) : SeedRun m pw name w st w₁ := by
  unfold seedChecked at h
  cases hr : w.store.readFailure with
  | some msg =>
    simp only [exec_bind, exec_liftStore, Store.getByEmail, Store.reading_of_some _ hr] at h
    cases h
  | none =>
    simp only [exec_bind, Store.getByEmail, exec_liftStore_reading _ hr] at h
    cases ht : emailTarget w.store m with
    | some p =>
      have hfound : (emailTarget w.store m).isSome := by rw [ht]; rfl
      unfold emailTarget at ht
      simp only [ht, exec_bind, exec_pure] at h
      rcases he : (ensureAdmin (.ofString m) pw name).exec w with ⟨_ | uid, w'⟩ <;> rw [he] at h
      · cases h
      simp only [Prod.mk.injEq, Except.ok.injEq] at h
      obtain ⟨rfl, rfl⟩ := h
      exact .existing hr hfound he
    | none =>
      have hnone := ht
      unfold emailTarget at ht
      simp only [ht, exec_bind, exec_pure] at h
      rcases he : (ensureAdmin (.ofString m) pw name).exec w with ⟨_ | uid, w'⟩ <;> rw [he] at h
      · cases h
      dsimp only at h
      rcases hc : (createProfile (.ofString m) name (.ofString uid) .admin).exec w' with
        ⟨_ | admin, w''⟩ <;> rw [hc] at h
      · cases h
      simp only [exec_liftStore] at h
      cases hw : w''.store.writeFailure with
      | some msg =>
        rw [Store.add_armed _ hw] at h
        cases h
      | none =>
        cases hcl : Store.clashOf w''.store.profiles admin with
        | some f =>
          rw [Store.add_clash hw hcl] at h
          cases h
        | none =>
          simp only [Store.add_fresh hw hcl, exec_notify, Prod.mk.injEq, Except.ok.injEq] at h
          obtain ⟨rfl, rfl⟩ := h
          exact .provisioned hr hnone he hc hw hcl

theorem emailTarget_eq_none {s : Store} {m : String} :
    emailTarget s m = none ↔
      ∀ q ∈ s.profiles, q.deleted = false →
        Text.ofString q.email ≠ (Text.ofString m).strip.lower := by
  unfold emailTarget Store.firstVisible
  rw [List.find?_eq_none]
  refine forall₂_congr fun q _ => ?_
  by_cases hd : q.deleted <;> simp [hd, Profile.visible]

theorem emailTarget_isSome {s : Store} {m : String} {q : Profile} (hq : q ∈ s.profiles)
    (hl : q.deleted = false) (hk : Text.ofString q.email = (Text.ofString m).strip.lower) :
    (emailTarget s m).isSome :=
  Option.ne_none_iff_isSome.mp fun h => emailTarget_eq_none.mp h q hq hl hk

section Rerun

variable {m : String} {pw name : Given} {i : Identity}

theorem seedChecked_found [V : Mail.AddressValidator] (hr : w.store.readFailure = none)
    (hfound : (emailTarget w.store m).isSome) (hf : w.provider.failure = none)
    (hs : Settled w.provider.identities (Text.ofString m).strip.lower i) :
    (seedChecked m pw name).exec w = (.ok .existing, w.ensureCounted) := by
  obtain ⟨p, hp⟩ := Option.isSome_iff_exists.mp hfound
  unfold emailTarget at hp
  unfold seedChecked
  simp only [exec_bind, Store.getByEmail, exec_liftStore_reading _ hr, hp,
    exec_ensureAdmin_settled hf (providerKey_ofString m) hs, exec_pure]

theorem seedChecked_clash [V : Mail.AddressValidator] {q : Profile}
    (hnone : emailTarget w.store m = none)
    (hf : w.provider.failure = none)
    (hs : Settled w.provider.identities (Text.ofString m).strip.lower i)
    (hq : q ∈ w.store.profiles) (hl : q.deleted = false)
    (hx : normalizeExternalId (.ofString i.uid) = .ok q.externalId) :
    ∃ f, ((seedChecked m pw name).exec w).1 = .error f := by
  rcases hrun : (seedChecked m pw name).exec w with ⟨_ | st, w₂⟩
  · exact ⟨_, rfl⟩
  exfalso
  cases seedChecked_run hrun with
  | existing _ hfound _ =>
    rw [hnone] at hfound
    cases hfound
  | @provisioned uid w' w'' admin _ _ he hc _ hclash =>
    rw [exec_ensureAdmin_settled hf (providerKey_ofString m) hs] at he
    simp only [Prod.mk.injEq, Except.ok.injEq] at he
    obtain ⟨rfl, rfl⟩ := he
    have hmade := createProfile_made (congrArg Prod.fst hc)
    obtain rfl := createProfile_world_of hc
    have hxa : admin.externalId = q.externalId :=
      Except.ok.inj (hmade.externalId.symm.trans hx)
    exact (Store.clashOf_eq_none.mp hclash q hq hl).2 hxa.symm

end Rerun

/-! ## Seeding twice -/

/-- The accepted email, checked again as the stored email is, is the key that seeding looks it up
by: the email stripped and lower-cased. -/
def SeedEmailReadsBack [V : Mail.AddressValidator] (m : String) : Prop :=
  ∃ m', normalizeEmailField (.ofString m) = .ok m' ∧
    Text.ofString m' = (Text.ofString m).strip.lower

/-- The identity the provider holds for a seeded email: it is found under the email stripped and
lower-cased, it has the administrator claim, and every later call of `ensure` for the email
answers its uid and changes nothing but the count of calls. -/
structure AdminIdentity (m : String) (w₁ : World) (i : Identity) : Prop where
  lookup : w₁.provider.identities.lookup (Text.ofString m).strip.lower = some i
  role : i.claims.lookup "role" = some "admin"
  ensure : ∀ pw name,
    (ensureAdmin (.ofString m) pw name).exec w₁ = (.ok i.uid, w₁.ensureCounted)

theorem AdminIdentity.of_settled {m : String} {w₁ : World} {i : Identity}
    (hf : w₁.provider.failure = none)
    (hs : Settled w₁.provider.identities (Text.ofString m).strip.lower i) :
    AdminIdentity m w₁ i :=
  ⟨hs.lookup, hs.role, fun _ _ => exec_ensureAdmin_settled hf (providerKey_ofString m) hs⟩

/-- The administrator that a provisioning seeding from `w` to `w₁` stored, for the accepted email
`m`, the display name `t` and the identity `i`: its email is `m` checked again; it is a live
`Admin` named `t` stripped whose external id is the uid of `i`; it is the one live profile with
its email or with the key `m` is looked up by; and its seeding is the one event reported. -/
structure SeededAdmin [V : Mail.AddressValidator] (m : String) (t : Text) (i : Identity)
    (w w₁ : World) (admin : Profile) :
    Prop where
  email : normalizeEmailField (.ofString m) = .ok admin.email
  role : admin.role = .admin
  displayName : admin.displayName = t.strip
  externalId : admin.externalId = Text.ofString i.uid
  live : admin.deleted = false
  stored : admin ∈ w₁.store.profiles
  only : ∀ q ∈ w₁.store.profiles, q.deleted = false →
    q.email = admin.email ∨ Text.ofString q.email = (Text.ofString m).strip.lower → q = admin
  events : w₁.events = w.events ++ [.mk' .adminSeeded (some admin.id) .success []]

section Twice

variable {m : String} {pw name : Given} {w₁ : World} {i : Identity} {admin : Profile}

theorem seedChecked_existing [V : Mail.AddressValidator]
    (h : (seedChecked m pw name).exec w = (.ok .existing, w₁)) :
    ∃ i, AdminIdentity m w₁ i ∧
      (seedChecked m pw name).exec w₁ = (.ok .existing, w₁.ensureCounted) := by
  cases seedChecked_run h with
  | existing hr hfound he =>
    have hen := ensureAdmin_ensured (providerKey_ofString m) he
    obtain ⟨i, hs, -⟩ := hen.settled
    have hr₁ : w₁.store.readFailure = none := by rw [hen.store]; exact hr
    have hfound₁ : (emailTarget w₁.store m).isSome := by rw [hen.store]; exact hfound
    exact ⟨i, .of_settled hen.failure hs, seedChecked_found hr₁ hfound₁ hen.failure hs⟩

/-- What a provisioning seeding from `w` to `w₁` did: it made `admin` from the email `m`, the
display name and the uid of `i`, which it settled at the provider; it put `admin` among the
profiles of `w`, none of which was live with its email or with the key `m` is looked up by; and it
reported `admin.seeded`. -/
structure Provisioning [V : Mail.AddressValidator] (m : String) (name : Given) (i : Identity)
    (w w₁ : World)
    (admin : Profile) : Prop where
  made : Made (.ofString m) name (.ofString i.uid) .admin admin
  stands : w.provider.UidsStand →
    normalizeExternalId (.ofString i.uid) = .ok (Text.ofString i.uid)
  failure : w₁.provider.failure = none
  settled : Settled w₁.provider.identities (Text.ofString m).strip.lower i
  readFailure : w₁.store.readFailure = none
  profiles : w₁.store.profiles = Store.put w.store.profiles admin
  fresh : ∀ q ∈ w.store.profiles, q.deleted = false →
    q.email ≠ admin.email ∧ Text.ofString q.email ≠ (Text.ofString m).strip.lower
  events : w₁.events = w.events ++ [.mk' .adminSeeded (some admin.id) .success []]

theorem seedChecked_provisioning [V : Mail.AddressValidator]
    (h : (seedChecked m pw name).exec w = (.ok .provisioned, w₁)) :
    ∃ i admin, Provisioning m name i w w₁ admin := by
  cases seedChecked_run h with
  | @provisioned uid w' w'' admin hr hnone he hc hw hclash =>
    have hen := ensureAdmin_ensured (providerKey_ofString m) he
    obtain ⟨i, hs, rfl⟩ := hen.settled
    obtain rfl := createProfile_world_of hc
    rw [hen.store] at hclash
    have hr' : w'.store.readFailure = none := by rw [hen.store]; exact hr
    refine ⟨i, admin, createProfile_made (congrArg Prod.fst hc), hen.stands, hen.failure, hs, hr',
      by rw [← hen.store], fun q hq hl => ?_, by rw [← hen.events]⟩
    exact ⟨(Store.clashOf_eq_none.mp hclash q hq hl).1, emailTarget_eq_none.mp hnone q hq hl⟩

namespace Provisioning

theorem admin_mem [V : Mail.AddressValidator]
    (h : Provisioning m name i w w₁ admin) : admin ∈ w₁.store.profiles := by
  rw [h.profiles]
  exact Store.mem_put.mpr (.inl rfl)

theorem only [V : Mail.AddressValidator] (h : Provisioning m name i w w₁ admin) {q : Profile}
    (hq : q ∈ w₁.store.profiles)
    (hl : q.deleted = false)
    (hk : q.email = admin.email ∨ Text.ofString q.email = (Text.ofString m).strip.lower) :
    q = admin := by
  rw [h.profiles] at hq
  rcases Store.mem_put.mp hq with rfl | ⟨hq, -⟩
  · rfl
  · obtain ⟨hne, hnk⟩ := h.fresh q hq hl
    exact absurd hk (not_or.mpr ⟨hne, hnk⟩)

theorem seededAdmin [V : Mail.AddressValidator] {t : Text} (hp : w.provider.UidsStand)
    (h : Provisioning m (.text t.strip) i w w₁ admin) : SeededAdmin m t i w w₁ admin := by
  obtain ⟨t₀, ht₀, hd⟩ := boundedField_ok h.made.displayName
  cases ht₀
  have hx := h.made.externalId
  rw [h.stands hp] at hx
  exact ⟨h.made.email, h.made.role, by rw [hd, Text.strip_strip], (Except.ok.inj hx).symm,
    h.made.live, h.admin_mem, fun _ hq hl hk => h.only hq hl hk, h.events⟩

theorem reseed_found [V : Mail.AddressValidator] (h : Provisioning m name i w w₁ admin)
    (hb : SeedEmailReadsBack m)
    (pw' name' : Given) :
    (seedChecked m pw' name').exec w₁ = (.ok .existing, w₁.ensureCounted) := by
  obtain ⟨m', hm', hk⟩ := hb
  obtain rfl : m' = admin.email := Except.ok.inj (hm'.symm.trans h.made.email)
  exact seedChecked_found h.readFailure (emailTarget_isSome h.admin_mem h.made.live hk) h.failure
    h.settled

theorem reseed_faults [V : Mail.AddressValidator] (h : Provisioning m name i w w₁ admin)
    (hb : ¬ SeedEmailReadsBack m)
    (pw' name' : Given) : ∃ f, ((seedChecked m pw' name').exec w₁).1 = .error f := by
  have hnone : emailTarget w₁.store m = none := by
    refine emailTarget_eq_none.mpr fun q hq hl hk => hb ⟨admin.email, h.made.email, ?_⟩
    rw [← h.only hq hl (.inr hk)]
    exact hk
  exact seedChecked_clash hnone h.failure h.settled h.admin_mem h.made.live h.made.externalId

end Provisioning

end Twice

/-- What a seeding that answered `existing` or `provisioned` guarantees of the next one, from the
same configuration and the world it left. After `existing`, the next seeding answers `existing`
again and changes nothing but the count of calls of `ensure`. After `provisioned`, the store holds
the administrator described by `SeededAdmin`; the next seeding answers `existing` in the same way
when the stored email reads back under its key, and otherwise stops with a fault. Either way the
provider holds the administrator identity under the key and answers its uid again. -/
structure SeedingConverges [V : Mail.AddressValidator] (c : SeedConfig) (w : World) : Prop where
  existing : ∀ w₁, (seedAdmin c).exec w = (.ok .existing, w₁) →
    ∃ m i, normalizeEmailField c.email = .ok m ∧ AdminIdentity m w₁ i ∧
      (seedAdmin c).exec w₁ = (.ok .existing, w₁.ensureCounted)
  provisioned : ∀ w₁, (seedAdmin c).exec w = (.ok .provisioned, w₁) →
    ∃ m t i admin, normalizeEmailField c.email = .ok m ∧ givenText c.displayName = .ok t ∧
      AdminIdentity m w₁ i ∧ SeededAdmin m t i w w₁ admin ∧
      (SeedEmailReadsBack m → (seedAdmin c).exec w₁ = (.ok .existing, w₁.ensureCounted)) ∧
      (¬ SeedEmailReadsBack m → ∃ f, ((seedAdmin c).exec w₁).1 = .error f)

/-- Seeding converges from every world whose provider's uids are external ids as they stand: after
a seeding that answered `existing` the next answers `existing`, and after one that answered
`provisioned` it does so exactly when the stored email reads back under its key. -/
theorem seeding_converges [V : Mail.AddressValidator] (c : SeedConfig) (w : World)
    (hp : w.provider.UidsStand) :
    SeedingConverges c w where
  existing w₁ h := by
    obtain ⟨m, t, pw, hm, -, hseed⟩ := seedAdmin_checked (congrArg Prod.fst h) nofun
    rw [hseed] at h ⊢
    obtain ⟨i, hi, hagain⟩ := seedChecked_existing h
    exact ⟨m, i, hm, hi, hagain⟩
  provisioned w₁ h := by
    obtain ⟨m, t, pw, hm, ht, hseed⟩ := seedAdmin_checked (congrArg Prod.fst h) nofun
    rw [hseed] at h ⊢
    obtain ⟨i, admin, hprov⟩ := seedChecked_provisioning h
    exact ⟨m, t, i, admin, hm, ht, .of_settled hprov.failure hprov.settled,
      hprov.seededAdmin hp, fun hb => hprov.reseed_found hb _ _,
      fun hb => hprov.reseed_faults hb _ _⟩

/-- A directory whose provider already holds an identity for the administrator's email, under a
uid it did not make. -/
theorem seeding_converges_shared :
    letI := Session.emailValidator
    let shared : Identity :=
      ⟨"idp-shared", Text.ofString "admin@example.org", .ofString "Admin", []⟩
    let w : World :=
      { provider := { identities := [(Text.ofString "admin@example.org", shared)] } }
    w.provider.UidsStand ∧
      SeedingConverges
        ⟨true, .ofString "Admin@Example.org", .ofString "pw", .ofString "Admin"⟩ w := by
  intro shared w
  have hp : w.provider.UidsStand := by
    intro e he
    rw [List.mem_singleton.mp he]
    decide
  exact ⟨hp, seeding_converges (V := Session.emailValidator) _ w hp⟩

end UserDirectory.Account
