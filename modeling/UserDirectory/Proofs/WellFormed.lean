import UserDirectory.Proofs.Audit
import UserDirectory.Proofs.LowerCase

/-!
# Stored profiles are well formed

Every profile that the directory's service stores, from an empty store on and as long as the
clock never moves backwards, is well formed (`Profile.WellFormed`): its id is the canonical text of
an identifier, its display name and external id are stripped and of bounded length
(`Text.Bounded`), its email is lower-cased, it carries a deletion stamp exactly when it is deleted
and that stamp is then also its update stamp, and it was not updated before it was created. It is
stored under its own id, and it has no update stamp exactly when the last write that the events
record for its id is its addition: it has not been renamed or deleted since it was added
(`stored_profiles_well_formed`).

The argument is one invariant over the run (`Invariant`), carried by what each step writes
(`Recorded`): a step of the service writes nothing and reports no event that stands for a write,
or it puts one profile under its id and reports that write in one event naming it. The profile
written is a new one made at the clock (`Fresh`), a live stored profile renamed to a checked name
at the clock, or a live stored profile deleted at the clock (`Writes`).
-/

namespace UserDirectory.Text

/-- A text with no blank at either end. -/
def Trimmed (t : Text) : Prop :=
  (∀ c ∈ t.points.head?, c.isBlank = false) ∧ (∀ c ∈ t.points.getLast?, c.isBlank = false)

/-- A text with no blank at either end and `1` to `limit` code points. -/
structure Bounded (limit : Nat) (t : Text) : Prop where
  trimmed : t.Trimmed
  nonempty : 0 < t.length
  atMost : t.length ≤ limit

theorem strip_trimmed (t : Text) : t.strip.Trimmed :=
  ⟨head?_stripBy_not _ t.points, getLast?_stripBy_not _ t.points⟩

end UserDirectory.Text

namespace UserDirectory.Account

open Act

/-! ## Stored fields -/

theorem boundedField_bounded {missing tooLong : FieldError} {limit : Nat} {g : Given} {t : Text}
    (h : boundedField missing tooLong limit g = .ok t) : t.Bounded limit := by
  obtain ⟨t₀, rfl, rfl⟩ := boundedField_ok h
  simp only [boundedField, givenText, Given.orEmpty_text, Except.mapError, bind, Except.bind] at h
  split at h
  · cases h
  · rename_i hne
    split at h
    · cases h
    · rename_i hle
      have hpos : 0 < t₀.strip.length := by
        simpa [Text.isEmpty, Text.length, List.length_pos_iff] using hne
      exact ⟨Text.strip_trimmed t₀, hpos, Nat.le_of_not_lt hle⟩

theorem normalizeEmail_lower [V : Mail.AddressValidator] {s e : String}
    (h : Mail.normalizeEmail s = .ok e) :
    Unicode.lower e = e := by
  unfold Mail.normalizeEmail at h
  dsimp only at h
  split at h
  · cases h
  · split at h
    · cases h
    · rename_i n hn
      cases h
      have hlow : String.ofList (Unicode.lowerList n) = Unicode.lower (String.ofList n) := by
        rw [Unicode.lower, String.toList_ofList]
      rw [hlow, Unicode.lower_lower]

theorem normalizeEmailField_lower [V : Mail.AddressValidator] {g : Given} {e : String}
    (h : normalizeEmailField g = .ok e) :
    Unicode.lower e = e := by
  simp only [normalizeEmailField, bind, Except.bind] at h
  split at h
  · cases h
  · split at h
    · cases h
    · split at h
      · rename_i hn
        cases h
        exact normalizeEmail_lower hn
      · cases h
      · cases h

/-! ## Well-formed profiles -/

theorem Instant.le_trans {a b c : Instant} (h₁ : a ≤ b) (h₂ : b ≤ c) : a ≤ c :=
  Int.le_trans h₁ h₂

theorem Instant.le_refl (a : Instant) : a ≤ a :=
  Int.le_refl a.micros

namespace Profile

/-- A well-formed stored profile: the canonical text of an identifier as its id, a display name
and an external id with no blank at either end and of bounded length, a lower-cased email, a
deletion stamp exactly when it is deleted, which is then also its update stamp, and no update
before its creation. -/
structure WellFormed (r : Profile) : Prop where
  id : ∃ u : Ident.Uuid, r.id = u.text
  displayName : r.displayName.Bounded displayNameLimit
  externalId : r.externalId.Bounded externalIdLimit
  email : Unicode.lower r.email = r.email
  deletedAt : r.deleted = true ↔ r.deletedAt.isSome = true
  deletionStamp : r.deleted = true → r.updatedAt = r.deletedAt
  updatedAfter : ∀ t, r.updatedAt = some t → r.createdAt ≤ t

/-- The kind of the last write of a profile: its deletion, else its last rename, else its
addition. -/
def lastWrite (r : Profile) : Counter :=
  if r.deleted then .softDeletes else if r.updatedAt.isSome then .updates else .adds

theorem WellFormed.lastWrite_eq_adds {r : Profile} (h : r.WellFormed) :
    r.lastWrite = .adds ↔ r.updatedAt = none := by
  unfold lastWrite
  cases hd : r.deleted
  · cases hu : r.updatedAt <;> simp
  · -- a deleted profile carries its deletion stamp as its update stamp
    have hs := h.deletionStamp hd
    have hsome := h.deletedAt.mp hd
    rw [← hs] at hsome
    simp only [if_true, reduceCtorEq, false_iff]
    intro hnone
    rw [hnone] at hsome
    cases hsome

theorem WellFormed.rename {r : Profile} (h : r.WellFormed) {name : Text} {now : Instant}
    (hn : name.Bounded displayNameLimit) (hl : r.deleted = false) (ht : r.createdAt ≤ now) :
    (r.rename name now).WellFormed where
  id := h.id
  displayName := hn
  externalId := h.externalId
  email := h.email
  deletedAt := h.deletedAt
  deletionStamp hd := absurd (hl.symm.trans hd) Bool.false_ne_true
  updatedAfter t ht' := by
    cases ht'
    exact ht

theorem WellFormed.markDeleted {r : Profile} (h : r.WellFormed) {now : Instant}
    (ht : r.createdAt ≤ now) : (r.markDeleted now).WellFormed where
  id := h.id
  displayName := h.displayName
  externalId := h.externalId
  email := h.email
  deletedAt := iff_of_true rfl rfl
  deletionStamp _ := rfl
  updatedAfter t ht' := by
    cases ht'
    exact ht

theorem lastWrite_rename {r : Profile} (hl : r.deleted = false) (name : Text) (now : Instant) :
    (r.rename name now).lastWrite = .updates := by
  simp [lastWrite, rename, hl]

theorem lastWrite_markDeleted (r : Profile) (now : Instant) :
    (r.markDeleted now).lastWrite = .softDeletes := rfl

end Profile

/-- A profile as it is made at `now`: the text of an identifier as its id, a checked display name
and external id, a lower-cased email, created at `now`, never updated and not deleted. -/
structure Fresh (now : Instant) (p : Profile) : Prop where
  id : ∃ u : Ident.Uuid, p.id = u.text
  displayName : p.displayName.Bounded displayNameLimit
  externalId : p.externalId.Bounded externalIdLimit
  email : Unicode.lower p.email = p.email
  createdAt : p.createdAt = now
  updatedAt : p.updatedAt = none
  deleted : p.deleted = false
  deletedAt : p.deletedAt = none

theorem Fresh.wellFormed {now : Instant} {p : Profile} (h : Fresh now p) : p.WellFormed where
  id := h.id
  displayName := h.displayName
  externalId := h.externalId
  email := h.email
  deletedAt := by simp [h.deleted, h.deletedAt]
  deletionStamp hd := absurd (h.deleted.symm.trans hd) Bool.false_ne_true
  updatedAfter t ht := by
    rw [h.updatedAt] at ht
    cases ht

theorem Fresh.lastWrite {now : Instant} {p : Profile} (h : Fresh now p) : p.lastWrite = .adds := by
  simp [Profile.lastWrite, h.deleted, h.updatedAt]

theorem createProfile_stamped [V : Mail.AddressValidator] {e n x : Given} {role : Role}
    {w : World} {p : Profile}
    (h : ((createProfile e n x role).exec w).1 = .ok p) :
    p.createdAt = w.clock ∧ p.updatedAt = none ∧ p.deletedAt = none := by
  have hw := freshId_world w
  rw [exec_createProfile] at h
  rcases hf : freshId.exec w with ⟨_ | u, w'⟩ <;> rw [hf] at h hw
  · cases h
  · cases hee : normalizeEmailField e <;> cases hnn : normalizeDisplayName n <;>
      cases hxx : normalizeExternalId x <;> simp only [hee, hnn, hxx, reduceCtorEq] at h
    obtain rfl := Except.ok.inj h
    dsimp only at hw
    subst hw
    exact ⟨rfl, rfl, rfl⟩

theorem createProfile_fresh [V : Mail.AddressValidator] {e n x : Given} {role : Role}
    {w w₁ : World} {p : Profile}
    (h : (createProfile e n x role).exec w = (.ok p, w₁)) : Fresh w₁.clock p := by
  have hmade := createProfile_made (congrArg Prod.fst h)
  obtain ⟨hc, hu, hd⟩ := createProfile_stamped (congrArg Prod.fst h)
  have hw₁ : w₁.clock = w.clock := by
    rw [createProfile_world_of h]
  exact ⟨hmade.id, boundedField_bounded hmade.displayName, boundedField_bounded hmade.externalId,
    normalizeEmailField_lower hmade.email, hc.trans hw₁.symm, hu, hmade.live, hd⟩

/-! ## What a run writes -/

/-- The profile that a write of kind `k` puts in the store `s` at `now`: a new profile made at
`now`, a live stored profile renamed to a checked name at `now`, or a live stored profile deleted
at `now`. -/
def Writes (now : Instant) (s : Store) : Counter → Profile → Prop
  | .adds, p => Fresh now p
  | .updates, p => ∃ r name, s.find? r.id = some r ∧ r.deleted = false ∧
      name.Bounded displayNameLimit ∧ p = r.rename name now
  | .softDeletes, p => ∃ r, s.find? r.id = some r ∧ r.deleted = false ∧ p = r.markDeleted now

theorem Writes.of_profiles {now : Instant} {s s₁ : Store} {k : Counter} {p : Profile}
    (hs : s₁.profiles = s.profiles) (h : Writes now s₁ k p) : Writes now s k p := by
  have hf := Session.Store.find?_of_profiles hs
  cases k with
  | adds => exact h
  | updates =>
    obtain ⟨r, name, hr, hrest⟩ := h
    exact ⟨r, name, hf ▸ hr, hrest⟩
  | softDeletes =>
    obtain ⟨r, hr, hrest⟩ := h
    exact ⟨r, hf ▸ hr, hrest⟩

/-- What a run did to the stored profiles, from the store `s` to the store `s'`, with the events
`es` it reported: nothing, and no event stands for a write; or one write of kind `k` at `now` that
puts `p` under its id, reported by one event that names `p` and stands for that write. -/
inductive Recorded (now : Instant) (s s' : Store) : List Event → Prop
  | none {es : List Event} : s'.profiles = s.profiles → (∀ e ∈ es, e.name.counter? = none) →
      Recorded now s s' es
  | wrote {e : Event} (k : Counter) (p : Profile) : Writes now s k p → e.subject = some p.id →
      e.name.counter? = some k → s'.profiles = Store.put s.profiles p → Recorded now s s' [e]

theorem Recorded.keeps_left {now : Instant} {s s₁ s' : Store} {es : List Event}
    (h₁ : s.Keeps s₁) (h : Recorded now s₁ s' es) : Recorded now s s' es := by
  cases h with
  | none hp hes => exact .none (hp.trans h₁.profiles) hes
  | wrote k p hw hs hk hp =>
    exact .wrote k p (hw.of_profiles h₁.profiles) hs hk (by rw [hp, h₁.profiles])

/-- What the run of `x` from `w` wrote and reported, at the clock it ends with. -/
def Act.Records {α : Type} (x : Act α) (w : World) : Prop :=
  ∃ es, (x.exec w).2.events = w.events ++ es ∧
    Recorded (x.exec w).2.clock w.store (x.exec w).2.store es

namespace Act.Records

variable {α β : Type} {x : Act α} {w : World}

theorem intro {w' : World} {r : Except Fault α} {es : List Event} (hx : x.exec w = (r, w'))
    (hev : w'.events = w.events ++ es) (h : Recorded w'.clock w.store w'.store es) :
    Records x w := by
  unfold Records
  rw [hx]
  exact ⟨es, hev, h⟩

theorem unwritten {w' : World} {r : Except Fault α} {es : List Event} (hx : x.exec w = (r, w'))
    (hp : w'.store.profiles = w.store.profiles) (hev : w'.events = w.events ++ es)
    (hes : ∀ e ∈ es, e.name.counter? = none) : Records x w :=
  .intro hx hev (.none hp hes)

theorem map (f : α → β) (h : Records x w) : Records (f <$> x) w := by
  unfold Records at h ⊢
  rw [exec_map]
  rcases hx : x.exec w with ⟨_ | a, w'⟩ <;> rw [hx] at h <;> exact h

end Act.Records

theorem Act.Quiet.records {α : Type} {x : Act α} (hx : Quiet x) (w : World) : Records x w :=
  ⟨[], by rw [(hx w).1, List.append_nil], .none (hx w).2.profiles nofun⟩

theorem Act.Logs.records {α : Type} {ok : α → Prop} {denies : String → Prop} {x : Act α}
    {w : World} (h : Logs ok denies x w) (hk : w.store.Keeps (x.exec w).2.store) : Records x w := by
  obtain ⟨es, hev, hl⟩ := h
  refine ⟨es, hev, .none hk.profiles fun e he => ?_⟩
  cases hc : e.name.counter? with
  | none => rfl
  | some k =>
    have hgrew := hl.counters k
    have hkept := hk.counter k
    have hpos : 0 < tally k es := List.countP_pos_iff.mpr ⟨e, he, by simp [hc]⟩
    omega

theorem records_bind_of_result {α β : Type} {x : Act α} {f : α → Act β} (P : α → World → Prop)
    (hx : Quiet x) (hP : ∀ w a w₁, x.exec w = (.ok a, w₁) → P a w₁)
    (hf : ∀ a w₁, P a w₁ → Records (f a) w₁) (w : World) : Records (x >>= f) w := by
  have h := hx w
  have hp := hP w
  unfold Records
  rw [exec_bind]
  rcases hxw : x.exec w with ⟨_ | a, w₁⟩ <;> rw [hxw] at h hp
  · exact ⟨[], by rw [h.1, List.append_nil], .none h.2.profiles nofun⟩
  · obtain ⟨es, hev, hr⟩ := hf a w₁ (hp a w₁ rfl)
    exact ⟨es, by rw [hev, h.1], hr.keeps_left h.2⟩

theorem records_bind_of_quiet {α β : Type} {x : Act α} {f : α → Act β} (hx : Quiet x)
    (hf : ∀ a w, Records (f a) w) (w : World) : Records (x >>= f) w :=
  records_bind_of_result (fun _ _ => True) hx (fun _ _ _ _ => trivial) (fun a w _ => hf a w) w

/-! ## The operations that write -/

section Operations

variable {w : World}

theorem loadFor_unwritten {id action : String} {caller : Option Caller}
    {r : Except Fault (Outcome Profile)} {w₁ : World}
    (h : (loadFor id caller action).exec w = (r, w₁)) :
    w₁.store.profiles = w.store.profiles ∧
      ∃ es, w₁.events = w.events ++ es ∧ ∀ e ∈ es, e.name.counter? = none := by
  have hk := keeps_loadFor id caller action w
  rw [h] at hk
  refine ⟨hk.profiles, ?_⟩
  cases hr : w.store.readFailure with
  | some m =>
    rw [exec_loadFor_armed caller action hr] at h
    cases h
    exact ⟨[], (List.append_nil _).symm, nofun⟩
  | none =>
    rcases exec_permitFound _ action rfl filter_visible_live hr with
      ⟨p, -, he, -⟩ | ⟨he, -⟩ | ⟨p, he, -⟩ <;>
      rw [exec_loadFor_match id action caller hr, he] at h <;> cases h
    · exact ⟨[], (List.append_nil _).symm, nofun⟩
    · exact ⟨[], (List.append_nil _).symm, nofun⟩
    · exact ⟨_, rfl, by simp [Event.mk', EventName.counter?]⟩

theorem loadFor_found {id action : String} {caller : Option Caller} {p : Profile} {w₁ : World}
    (h : (loadFor id caller action).exec w = (.ok (.ok p), w₁)) :
    w₁ = w ∧ w.store.find? id = some p ∧ p.deleted = false := by
  cases hr : w.store.readFailure with
  | some m =>
    rw [exec_loadFor_armed caller action hr] at h
    cases h
  | none =>
    rcases exec_loadFor_found id action caller hr with ⟨q, hq, hl, he⟩ | ⟨w', he, -⟩ <;>
      rw [he] at h <;> cases h
    exact ⟨rfl, hq, hl⟩

theorem records_after_load {α : Type} {x : Act α} {id action : String} {caller : Option Caller}
    {r : Except Fault (Outcome Profile)} {y : Except Fault α} {w₁ w' : World} {es : List Event}
    (hload : (loadFor id caller action).exec w = (r, w₁)) (hx : x.exec w = (y, w'))
    (hs : w'.store = w₁.store) (hev : w'.events = w₁.events ++ es)
    (hes : ∀ e ∈ es, e.name.counter? = none) : Records x w := by
  obtain ⟨hp, es₁, hev₁, hes₁⟩ := loadFor_unwritten hload
  refine .unwritten hx (by rw [hs, hp]) (by rw [hev, hev₁, List.append_assoc]) ?_
  simp only [List.mem_append]
  rintro e (he | he)
  · exact hes₁ e he
  · exact hes e he

theorem records_createUser [V : Mail.AddressValidator] (e n x : Given) (w : World) : Records
    (createUser e n x) w := by
  refine records_bind_of_result (fun (r : Except Fault Profile) w₁ => ∀ p, r = .ok p →
    Fresh w₁.clock p) (quiet_attempt (quiet_createProfile e n x .user)) ?_ (fun made w₁ hmade => ?_) w
  · intro w r w₁ h p hr
    subst hr
    rw [exec_attempt] at h
    rcases hc : (createProfile e n x .user).exec w with ⟨_ | q, w₂⟩ <;> rw [hc] at h <;> cases h
    exact createProfile_fresh hc
  · split
    · exact (quiet_pure _).records w₁
    · exact (quiet_throw _).records w₁
    · rename_i record
      unfold Records
      cases hw : w₁.store.writeFailure with
      | some m =>
        simp only [exec_bind, exec_attempt, exec_liftStore, Store.add_armed _ hw]
        exact ⟨[_], rfl, .none rfl (by simp [Event.mk', EventName.counter?])⟩
      | none =>
        cases hcl : Store.clashOf w₁.store.profiles record with
        | some field =>
          simp only [exec_bind, exec_attempt, exec_liftStore, Store.add_clash hw hcl]
          exact ⟨[_], rfl, .none rfl (by simp [Event.mk', EventName.counter?])⟩
        | none =>
          simp only [exec_bind, exec_attempt, exec_liftStore, Store.add_fresh hw hcl, exec_notify,
            exec_pure]
          exact ⟨[_], rfl, .wrote .adds record (hmade record rfl) rfl rfl rfl⟩

theorem records_seedAdmin [V : Mail.AddressValidator] (c : SeedConfig) (w : World) : Records
    (seedAdmin c) w := by
  unfold seedAdmin
  split
  · exact (quiet_pure _).records w
  refine records_bind_of_quiet (quiet_requireUse _) (fun complete w => ?_) w
  split
  · exact (quiet_pure _).records w
  refine records_bind_of_quiet (quiet_requireField _) (fun email w => ?_) w
  refine records_bind_of_quiet (quiet_requireField _) (fun name w => ?_) w
  refine records_bind_of_quiet (quiet_liftStore (Store.keeps_reading _)) (fun found w => ?_) w
  split
  · exact (quiet_bind (quiet_ensureAdmin _ _ _) fun _ => quiet_pure _).records w
  refine records_bind_of_quiet (quiet_ensureAdmin _ _ _) (fun ext w => ?_) w
  refine records_bind_of_result (fun admin w₁ => Fresh w₁.clock admin)
    (quiet_createProfile _ _ _ _) (fun _ _ _ h => createProfile_fresh h) (fun admin w hadmin => ?_) w
  unfold Records
  cases hw : w.store.writeFailure with
  | some m =>
    simp only [exec_bind, exec_liftStore, Store.add_armed _ hw]
    exact ⟨[], (List.append_nil _).symm, .none rfl nofun⟩
  | none =>
    cases hcl : Store.clashOf w.store.profiles admin with
    | some field =>
      simp only [exec_bind, exec_liftStore, Store.add_clash hw hcl]
      exact ⟨[], (List.append_nil _).symm, .none rfl nofun⟩
    | none =>
      simp only [exec_bind, exec_liftStore, Store.add_fresh hw hcl, exec_notify, exec_pure]
      exact ⟨[_], rfl, .wrote .adds admin hadmin rfl rfl rfl⟩

theorem records_renameUser (t n : Given) (caller : Option Caller) (w : World) :
    Records (renameUser t n caller) w := by
  cases ht : parseUserId t with
  | error e => exact .unwritten (by rw [renameUser_refused ht]; rfl) rfl (List.append_nil _).symm nofun
  | ok target =>
    cases hn : normalizeDisplayName n with
    | error e =>
      rw [renameUser_name_error ht hn]
      split
      · exact (quiet_pure _).records w
      · exact (quiet_throw _).records w
    | ok name =>
      have hx := exec_renameUser_accepted ht hn caller w
      rcases hload : (loadFor target caller "rename").exec w with ⟨_ | _ | p, w₁⟩ <;>
        rw [hload] at hx
      · exact records_after_load hload hx rfl rfl (by simp [Event.mk', EventName.counter?])
      · exact records_after_load hload hx rfl (List.append_nil _).symm nofun
      · obtain ⟨hw₁, hp, hl⟩ := loadFor_found hload
        subst w₁
        dsimp only at hx
        have hf : w.store.find? (p.rename name w.clock).id = some p := by
          rw [Profile.rename_id, Store.find?_id hp]
          exact hp
        have hpid : w.store.find? p.id = some p := by
          rw [Store.find?_id hp]
          exact hp
        cases hw : w.store.writeFailure with
        | some m =>
          rw [Store.update_armed _ hw] at hx
          exact .unwritten hx rfl rfl (by simp [Event.mk', EventName.counter?])
        | none =>
          rw [Store.update_live hw hf hl] at hx
          exact .intro hx rfl (.wrote .updates _ ⟨p, name, hpid, hl, boundedField_bounded hn, rfl⟩
            rfl rfl rfl)

theorem records_deleteUser (t : Given) (caller : Option Caller) (w : World) :
    Records (deleteUser t caller) w := by
  cases ht : parseUserId t with
  | error e => exact .unwritten (by rw [deleteUser_refused ht]; rfl) rfl (List.append_nil _).symm nofun
  | ok target =>
    have hx := exec_deleteUser_accepted ht caller w
    rcases hload : (loadFor target caller "delete").exec w with ⟨_ | _ | p, w₁⟩ <;>
      rw [hload] at hx
    · exact records_after_load hload hx rfl rfl (by simp [Event.mk', EventName.counter?])
    · exact records_after_load hload hx rfl (List.append_nil _).symm nofun
    · obtain ⟨hw₁, hp, hl⟩ := loadFor_found hload
      subst w₁
      dsimp only at hx
      have hpid : w.store.find? p.id = some p := by
        rw [Store.find?_id hp]
        exact hp
      cases hw : w.store.writeFailure with
      | some m =>
        rw [Store.softDelete_armed _ _ hw] at hx
        exact .unwritten hx rfl rfl (by simp [Event.mk', EventName.counter?])
      | none =>
        rw [Store.softDelete_live w.clock hw hp hl] at hx
        exact .intro hx rfl (.wrote .softDeletes _ ⟨p, hpid, hl, rfl⟩ rfl rfl rfl)

end Operations

end UserDirectory.Account

namespace UserDirectory.Session

open UserDirectory.Account Act

/-! ## Steps -/

theorem records_callerThen {k : Option Caller → Act (Outcome Profile)} (c : Option CallerSpec)
    (hk : ∀ caller w, Records (k caller) w) (w : World) :
    Records (do return .outcome (← k (← callerOf? c)) : Act Reply) w :=
  records_bind_of_quiet (quiet_callerOf? c) (fun caller w => by
    simp only [bind_pure_comp]
    exact (hk caller w).map _) w

theorem records_runStep [V : Mail.AddressValidator] (st : Step) (hst : st.service = true)
    (w : World) :
    Records (runStep st) w := by
  cases st with
  | advance span => exact (quiet_bind (quiet_advanceClock span) fun _ => quiet_pure _).records w
  | failNextRead m => exact .unwritten rfl rfl (List.append_nil _).symm nofun
  | failNextWrite m => exact .unwritten rfl rfl (List.append_nil _).symm nofun
  | failNextProvider m => exact .unwritten rfl rfl (List.append_nil _).symm nofun
  | createUser e n x => exact (records_createUser e n x w).map _
  | currentUser c =>
    exact (quiet_bind (quiet_callerOf? c) fun caller =>
      quiet_bind (quiet_currentUser caller) fun _ => quiet_pure _).records w
  | userById t c =>
    exact (logs_runStep _ hst w).records (frames_bind (frames_callerOf? c) (fun caller =>
      frames_bind (keeps_userById t caller) fun _ => frames_pure _) w)
  | userByEmail e c =>
    exact (logs_runStep _ hst w).records (frames_bind (frames_callerOf? c) (fun caller =>
      frames_bind (keeps_userByEmail e caller) fun _ => frames_pure _) w)
  | renameUser t n c => exact records_callerThen c (records_renameUser t n) w
  | deleteUser t c => exact records_callerThen c (records_deleteUser t) w
  | listUsers sortBy direction r =>
    refine Quiet.records ?_ w
    dsimp only [runStep]
    split
    · exact quiet_throw _
    · exact quiet_throw _
    · exact quiet_map _ (quiet_listUsers _)
  | bootstrap c => exact (records_seedAdmin c w).map _
  | _ => cases hst

/-! ## The invariant of a run -/

/-- The writes that the events `es` record for the profile with the id `id`, in order. -/
def writesOf (es : List Event) (id : String) : List Counter :=
  es.filterMap fun e => if e.subject = some id then e.name.counter? else none

theorem writesOf_append (es es' : List Event) (id : String) :
    writesOf (es ++ es') id = writesOf es id ++ writesOf es' id :=
  List.filterMap_append

theorem writesOf_unwritten {es : List Event} (h : ∀ e ∈ es, e.name.counter? = none)
    (id : String) : writesOf es id = [] := by
  unfold writesOf
  rw [List.filterMap_eq_nil_iff]
  intro e he
  split <;> simp [h e he]

theorem writesOf_wrote {e : Event} {p : Profile} {k : Counter} (hs : e.subject = some p.id)
    (hk : e.name.counter? = some k) (id : String) :
    writesOf [e] id = if id = p.id then [k] else [] := by
  by_cases hid : id = p.id
  · simp [writesOf, hs, hk, hid]
  · have hne : ¬ some p.id = some id := fun h => hid (Option.some.inj h).symm
    simp [writesOf, hs, hid, hne]

/-- What holds of the stored profiles `ps` at the clock `now` after the events `E`: their ids are
distinct, and each one is well formed, was created no later than `now`, and its own last write is
the last write that the events record for its id. -/
structure Invariant (E : List Event) (ps : List Profile) (now : Instant) : Prop where
  ids : (ps.map (·.id)).Nodup
  wellFormed : ∀ r ∈ ps, r.WellFormed
  created : ∀ r ∈ ps, r.createdAt ≤ now
  lastWrite : ∀ r ∈ ps, (writesOf E r.id).getLast? = some r.lastWrite

theorem Invariant.nil (E : List Event) (now : Instant) : Invariant E [] now :=
  ⟨List.nodup_nil, nofun, nofun, nofun⟩

theorem Invariant.writes {E : List Event} {s : Store} {c now : Instant} {k : Counter}
    {p : Profile} (h : Invariant E s.profiles c) (hw : Writes now s k p) (hc : c ≤ now) :
    p.WellFormed ∧ p.createdAt ≤ now ∧ p.lastWrite = k := by
  cases k with
  | adds => exact ⟨hw.wellFormed, hw.createdAt ▸ Instant.le_refl now, hw.lastWrite⟩
  | updates =>
    obtain ⟨r, name, hr, hl, hn, rfl⟩ := hw
    have hmem := List.mem_of_find?_eq_some hr
    have hrc := Instant.le_trans (h.created r hmem) hc
    exact ⟨(h.wellFormed r hmem).rename hn hl hrc, hrc, Profile.lastWrite_rename hl name now⟩
  | softDeletes =>
    obtain ⟨r, hr, hl, rfl⟩ := hw
    have hmem := List.mem_of_find?_eq_some hr
    have hrc := Instant.le_trans (h.created r hmem) hc
    exact ⟨(h.wellFormed r hmem).markDeleted hrc, hrc, Profile.lastWrite_markDeleted r now⟩

theorem Invariant.recorded {E es : List Event} {s s' : Store} {c now : Instant}
    (h : Invariant E s.profiles c) (hr : Recorded now s s' es) (hc : c ≤ now) :
    Invariant (E ++ es) s'.profiles now := by
  cases hr with
  | none hp hes =>
    rw [hp]
    refine ⟨h.ids, h.wellFormed, fun r hr => Instant.le_trans (h.created r hr) hc, fun r hr => ?_⟩
    rw [writesOf_append, writesOf_unwritten hes, List.append_nil]
    exact h.lastWrite r hr
  | wrote k p hw hs hk hp =>
    obtain ⟨hpw, hpc, hpk⟩ := h.writes hw hc
    rw [hp]
    refine ⟨Store.nodup_map_id_put h.ids, fun r hr => ?_, fun r hr => ?_, fun r hr => ?_⟩ <;>
      rcases Store.mem_put.mp hr with rfl | ⟨hr, hne⟩
    · exact hpw
    · exact h.wellFormed r hr
    · exact hpc
    · exact Instant.le_trans (h.created r hr) hc
    · rw [writesOf_append, writesOf_wrote hs hk, if_pos rfl, List.getLast?_append,
        List.getLast?_singleton, hpk]
      rfl
    · rw [writesOf_append, writesOf_wrote hs hk, if_neg hne, List.append_nil]
      exact h.lastWrite r hr

theorem invariant_worldAfter [V : Mail.AddressValidator] (steps : List Step)
    (hs : ∀ st ∈ steps, st.service = true)
    (w : World) (E : List Event) (hinv : Invariant E w.store.profiles w.clock)
    (hclock : ∀ pre st post, steps = pre ++ st :: post →
      (worldAfter pre w).clock ≤ (worldAfter (pre ++ [st]) w).clock) :
    Invariant (E ++ ((runSteps steps).run w).1.flatMap (·.events))
      (worldAfter steps w).store.profiles (worldAfter steps w).clock := by
  induction steps generalizing w E with
  | nil =>
    have hnil : ((runSteps []).run w).1 = [] := rfl
    rw [hnil, List.flatMap_nil, List.append_nil, worldAfter_nil]
    exact hinv
  | cons st rest ih =>
    obtain ⟨es, hev, hrec⟩ := records_runStep st (hs st List.mem_cons_self) { w with events := [] }
    have hc : w.clock ≤ ((runStep st).exec { w with events := [] }).2.clock := by
      have h := hclock [] st rest rfl
      rwa [worldAfter_nil, List.nil_append, worldAfter_cons, worldAfter_nil] at h
    have hinv₁ := hinv.recorded hrec hc
    rw [worldAfter_cons, reports_cons, List.flatMap_cons, reportStep_events, hev, List.nil_append,
      ← List.append_assoc]
    refine ih (fun s h => hs s (List.mem_cons_of_mem st h)) _ _ hinv₁ fun pre st' post h => ?_
    have h' := hclock (st :: pre) st' post (by rw [h]; rfl)
    rwa [worldAfter_cons, List.cons_append, worldAfter_cons] at h'

/-- Stored profiles are well formed. Take any run of the directory's service (its operations and
the seeding of the administrator, with any callers, inputs, armed failures and moves of the clock)
from a world whose store holds no profile, in which no step moves the clock back. Afterwards every
stored profile is well formed (`Profile.WellFormed`) and stored under its own id, and it has no
update stamp exactly when the last write that the events of the run record for its id is its
addition: it has not been renamed or deleted since it was added. -/
theorem stored_profiles_well_formed [V : Mail.AddressValidator] (steps : List Step)
    (hs : ∀ st ∈ steps, st.service = true)
    (w : World) (hempty : w.store.profiles = [])
    (hclock : ∀ pre st post, steps = pre ++ st :: post →
      (worldAfter pre w).clock ≤ (worldAfter (pre ++ [st]) w).clock) :
    let s := (worldAfter steps w).store
    let events := ((runSteps steps).run w).1.flatMap (·.events)
    ∀ r ∈ s.profiles, r.WellFormed ∧ s.find? r.id = some r ∧
      (r.updatedAt = none ↔ (writesOf events r.id).getLast? = some .adds) := by
  intro s events r hr
  have hinv := invariant_worldAfter steps hs w [] (by rw [hempty]; exact .nil [] w.clock) hclock
  rw [List.nil_append] at hinv
  have hwf := hinv.wellFormed r hr
  refine ⟨hwf, Store.find?_self hinv.ids hr, ?_⟩
  rw [hinv.lastWrite r hr, Option.some.injEq, hwf.lastWrite_eq_adds]

/-- A run that creates Ann's profile, moves the clock a minute on, and renames and deletes the
profile, each time as Ann. -/
theorem stored_profiles_well_formed_lifecycle :
    letI := emailValidator
    let ann : CallerSpec := ⟨.ofString "ext-ann", .none⟩
    let id : Given := .ofString "00000000-0000-0000-0000-000000000001"
    let steps : List Step :=
      [.createUser (.ofString "Ann@Example.org") (.ofString "Ann") (.ofString "ext-ann"),
        .advance (.whole 60), .renameUser id (.ofString "Ann Lee") (some ann),
        .deleteUser id (some ann)]
    let w : World := {}
    (∀ st ∈ steps, st.service = true) ∧ w.store.profiles = [] ∧
    (∀ pre st post, steps = pre ++ st :: post →
      (worldAfter pre w).clock ≤ (worldAfter (pre ++ [st]) w).clock) ∧
    let s := (worldAfter steps w).store
    let events := ((runSteps steps).run w).1.flatMap (·.events)
    ∀ r ∈ s.profiles, r.WellFormed ∧ s.find? r.id = some r ∧
      (r.updatedAt = none ↔ (writesOf events r.id).getLast? = some .adds) := by
  intro ann id steps w
  have hclock : ∀ pre st post, steps = pre ++ st :: post →
      (worldAfter (V := emailValidator) pre w).clock ≤
        (worldAfter (V := emailValidator) (pre ++ [st]) w).clock := by
    intro pre st post h
    rcases pre with _ | ⟨a, _ | ⟨b, _ | ⟨c, _ | ⟨d, pre⟩⟩⟩⟩ <;>
      simp only [steps, List.nil_append, List.cons_append, List.cons.injEq] at h
    · obtain ⟨rfl, rfl⟩ := h
      decide +kernel
    · obtain ⟨rfl, rfl, rfl⟩ := h
      decide +kernel
    · obtain ⟨rfl, rfl, rfl, rfl⟩ := h
      decide +kernel
    · obtain ⟨rfl, rfl, rfl, rfl, rfl⟩ := h
      decide +kernel
    · simp at h
  exact ⟨by decide, rfl, hclock,
    stored_profiles_well_formed (V := emailValidator) steps (by decide) w rfl hclock⟩

end UserDirectory.Session
