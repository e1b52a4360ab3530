import UserDirectory.Proofs.Effects

/-!
# Runs of steps and what they do to the stored profiles

A scenario runs steps in order against one world (`UserDirectory.Session.runSteps`). Whatever a
step is and however it ends, it does one of three things to the stored profiles
(`ProfilesStep`):

* it keeps them;
* it puts a changed copy of a live stored profile in that profile's place: a rename or a soft
  deletion;
* it puts in a profile whose id is the text of an identifier; only the steps that add profiles
  (`Step.addsProfile`: creating, adding to the store, seeding, seeding the administrator) do.

`profilesStep_runStep` proves this for every step from any world. It is read off how each
operation ends (`UserDirectory.Account.Ending`) and off the frames of the steps that only read,
with combinators in the style of `Act.Frames`: a step that keeps the store around one operation
does to the profiles what that operation does. Runs are then handled one step at a time
(`after_cons`).
-/

namespace UserDirectory.Session

open UserDirectory.Account Act

/-! ## Steps that add profiles, and what a step does to the profiles -/

/-- Whether a step may put a new profile in the store: creating a user, adding to the store
directly, seeding a profile and seeding the administrator. -/
def Step.addsProfile : Step → Bool
  | .createUser .. => true
  | .storeAdd _ => true
  | .seed _ => true
  | .bootstrap _ => true
  | _ => false

/-- What one step does to the stored profiles, from the store `s` to the store `s'`. -/
inductive ProfilesStep (adds : Bool) (s s' : Store) : Prop
  /-- the profiles are as they were -/
  | keep : s'.profiles = s.profiles → ProfilesStep adds s s'
  /-- a changed copy `p` of the live stored profile `r` with its id is put in its place -/
  | replace (p r : Profile) : s.find? p.id = some r → r.deleted = false →
      s'.profiles = Store.put s.profiles p → ProfilesStep adds s s'
  /-- a step that adds puts in a profile whose id is an identifier's text -/
  | insert (p : Profile) : adds = true → (∃ u : Ident.Uuid, p.id = u.text) →
      s'.profiles = Store.put s.profiles p → ProfilesStep adds s s'

theorem Store.find?_of_profiles {s s' : Store} (h : s'.profiles = s.profiles) :
    s'.find? = s.find? := by
  funext id
  simp only [Store.find?, h]

namespace ProfilesStep

variable {adds : Bool} {s₁ s₂ s₃ : Store}

theorem keeps_left (h₁ : s₁.Keeps s₂) (h : ProfilesStep adds s₂ s₃) :
    ProfilesStep adds s₁ s₃ := by
  cases h with
  | keep h => exact .keep (h.trans h₁.profiles)
  | replace p r hf hl hs =>
    rw [Store.find?_of_profiles h₁.profiles] at hf
    rw [h₁.profiles] at hs
    exact .replace p r hf hl hs
  | insert p ha hu hs =>
    rw [h₁.profiles] at hs
    exact .insert p ha hu hs

theorem keeps_right (h : ProfilesStep adds s₁ s₂) (h₂ : s₂.Keeps s₃) :
    ProfilesStep adds s₁ s₃ := by
  cases h with
  | keep h => exact .keep (h₂.profiles.trans h)
  | replace p r hf hl hs => exact .replace p r hf hl (h₂.profiles.trans hs)
  | insert p ha hu hs => exact .insert p ha hu (h₂.profiles.trans hs)

theorem of_keeps (h : s₁.Keeps s₂) : ProfilesStep adds s₁ s₂ := .keep h.profiles

end ProfilesStep

/-! ## Operations read as profile steps -/

/-- From every world, `x` does to the stored profiles what one step may do. -/
def StepsProfiles {α : Type} (adds : Bool) (x : Act α) : Prop :=
  ∀ w, ProfilesStep adds w.store (x.exec w).2.store

section Combinators

variable {α β : Type} {adds : Bool}

theorem stepsProfiles_of_keeps {x : Act α} (h : Frames Store.Keeps x) : StepsProfiles adds x :=
  fun w => .of_keeps (h w)

theorem stepsProfiles_bind_left {x : Act α} {f : α → Act β} (hx : Frames Store.Keeps x)
    (hf : ∀ a, StepsProfiles adds (f a)) : StepsProfiles adds (x >>= f) := by
  intro w
  have hk := hx w
  rw [exec_bind]
  rcases hxw : x.exec w with ⟨_ | a, w'⟩ <;> rw [hxw] at hk
  · exact .of_keeps hk
  · exact (hf a w').keeps_left hk

theorem stepsProfiles_bind_right {x : Act α} {f : α → Act β} (hx : StepsProfiles adds x)
    (hf : ∀ a, Frames Store.Keeps (f a)) : StepsProfiles adds (x >>= f) := by
  intro w
  have hs := hx w
  rw [exec_bind]
  rcases hxw : x.exec w with ⟨_ | a, w'⟩ <;> rw [hxw] at hs
  · exact hs
  · exact hs.keeps_right (hf a w')

theorem stepsProfiles_map {x : Act α} (f : α → β) (hx : StepsProfiles adds x) :
    StepsProfiles adds (f <$> x) := by
  intro w
  have hs := hx w
  rw [exec_map]
  rcases hxw : x.exec w with ⟨_ | a, w'⟩ <;> rw [hxw] at hs <;> exact hs

theorem stepsProfiles_of_ends {x : Act (Outcome α)} {m : World → Prop}
    {d : World → α → Store → Store → Prop} (h : ∀ w, Ends (m w) (d w) x w)
    (hd : ∀ w a s', d w a w.store s' → ProfilesStep adds w.store s') :
    StepsProfiles adds x := by
  intro w
  cases hr : (x.exec w).1 with
  | error f => exact .keep (congrArg Store.profiles (Ending.store_of_fault (h w) hr))
  | ok o =>
    cases o with
    | error f => exact .of_keeps (Ending.keeps_of_failure (h w) hr)
    | ok a => exact hd w a _ (Ending.done_of_success (h w) hr)

theorem stepsProfiles_bind_of_result {x : Act α} {f : α → Act β} {P : α → Prop}
    (hx : Frames Store.Keeps x) (hP : ∀ w a, (x.exec w).1 = .ok a → P a)
    (hf : ∀ a, P a → StepsProfiles adds (f a)) : StepsProfiles adds (x >>= f) := by
  intro w
  have hk := hx w
  have ha := hP w
  rw [exec_bind]
  rcases hxw : x.exec w with ⟨_ | a, w'⟩ <;> rw [hxw] at hk ha
  · exact .of_keeps hk
  · exact (hf a (ha a rfl) w').keeps_left hk

theorem stepsProfiles_liftStore {f : Store → StoreStep α}
    (h : ∀ s, ProfilesStep adds s (f s).2) : StepsProfiles adds (liftStore f) := by
  intro w
  have hs := h w.store
  rw [exec_liftStore]
  rcases hf : f w.store with ⟨_ | a, s'⟩ <;> rw [hf] at hs <;> exact hs

end Combinators

/-! ## The writes -/

section Writes

variable {adds : Bool} {s s' : Store} {p : Profile}

theorem profilesStep_add (hu : ∃ u : Ident.Uuid, p.id = u.text) (s : Store) :
    ProfilesStep true s (Store.add p s).2 := by
  rcases Store.add_profiles p s with hs | ⟨-, hs⟩
  · exact .keep hs
  · exact .insert p rfl hu hs

theorem profilesStep_softDelete (id : String) (now : Instant) (s : Store) :
    ProfilesStep adds s (Store.softDelete id now s).2 := by
  rcases Store.softDelete_profiles id now s with hs | ⟨q, hq, hl, hs⟩
  · exact .keep hs
  · have hid : (q.markDeleted now).id = id :=
      (Profile.markDeleted_id q now).trans (Store.find?_id hq)
    exact .replace _ q (hid ▸ hq) hl hs

theorem profilesStep_of_renamed {t n : Given} {now : Instant} (h : Renamed t n now p s s') :
    ProfilesStep adds s s' := by
  obtain ⟨id, name, r, -, -, hr, hl, rfl, rfl⟩ := h
  have hid : (r.rename name.strip now).id = id :=
    (Profile.rename_id _ _ _).trans (Store.find?_id hr)
  exact .replace _ r (hid ▸ hr) hl rfl

theorem profilesStep_of_deleted {t : Given} {now : Instant} (h : Deleted t now p s s') :
    ProfilesStep adds s s' := by
  obtain ⟨id, r, -, hr, hl, rfl, rfl⟩ := h
  have hid : (r.markDeleted now).id = id := (Profile.markDeleted_id r now).trans (Store.find?_id hr)
  exact .replace _ r (hid ▸ hr) hl rfl

theorem profilesStep_of_added (h : Added p s s') : ProfilesStep true s s' := by
  obtain ⟨hu, -, rfl⟩ := h
  exact .insert p rfl hu rfl

end Writes

/-! ## Every step -/

section Steps

variable {R : Store → Store → Prop} [IsPreorder Store R]

theorem frames_callerOf (spec : CallerSpec) : Frames R (callerOf spec) := fun w => by
  rw [callerOf_world]
  exact refl_of R w.store

theorem frames_callerOf? (spec : Option CallerSpec) : Frames R (callerOf? spec) := fun w => by
  rw [callerOf?_world]
  exact refl_of R w.store

end Steps

theorem createFrom_id [V : Mail.AddressValidator] {spec : ProfileSpec} {w : World} {p : Profile}
    (h : ((createFrom spec).exec w).1 = .ok p) : ∃ u : Ident.Uuid, p.id = u.text := by
  unfold createFrom at h
  split at h
  · cases h
  · exact createProfile_id h

theorem stepsProfiles_seedProfile [V : Mail.AddressValidator]
    (spec : ProfileSpec) : StepsProfiles true (seedProfile spec) := by
  unfold seedProfile
  refine stepsProfiles_bind_of_result (frames_createFrom spec) (fun _ _ h => createFrom_id h)
    fun p hu => stepsProfiles_bind_left frames_now fun t => ?_
  have hu' : ∃ u : Ident.Uuid, (if spec.deleted then p.markDeleted t else p).id = u.text := by
    split <;> exact hu
  exact stepsProfiles_bind_right (fun w => .insert _ rfl hu' rfl) fun _ => frames_pure _

theorem stepsProfiles_seedAdmin [V : Mail.AddressValidator] (c : SeedConfig) : StepsProfiles true
    (seedAdmin c) := by
  unfold seedAdmin
  split
  · exact stepsProfiles_of_keeps (frames_pure _)
  refine stepsProfiles_bind_left (frames_requireUse _) fun complete => ?_
  split
  · exact stepsProfiles_of_keeps (frames_pure _)
  refine stepsProfiles_bind_left (frames_requireField _) fun email =>
    stepsProfiles_bind_left (frames_requireField _) fun name =>
      stepsProfiles_bind_left (frames_liftStore (Store.keeps_reading _)) fun found => ?_
  split
  · exact stepsProfiles_of_keeps (frames_bind (frames_ensureAdmin _ _ _) fun _ => frames_pure _)
  refine stepsProfiles_bind_left (frames_ensureAdmin _ _ _) fun ext =>
    stepsProfiles_bind_of_result (frames_createProfile _ _ _ _) (fun _ _ h => createProfile_id h)
      fun admin hu => ?_
  exact stepsProfiles_bind_right (stepsProfiles_liftStore (profilesStep_add hu)) fun _ =>
    frames_bind (frames_notify _) fun _ => frames_pure _

theorem stepsProfiles_runStep [V : Mail.AddressValidator]
    (st : Step) : StepsProfiles st.addsProfile (runStep st) := by
  cases st with
  | advance span =>
    exact stepsProfiles_of_keeps (frames_bind (frames_advanceClock span) fun _ => frames_pure _)
  | failNextRead m => exact fun w => .keep rfl
  | failNextWrite m => exact fun w => .keep rfl
  | failNextProvider m => exact fun w => .keep rfl
  | seed spec => exact stepsProfiles_map _ (stepsProfiles_seedProfile spec)
  | dump => exact stepsProfiles_of_keeps (frames_get_bind fun w => refl_of _ w.store)
  | createUser e n x =>
    exact stepsProfiles_map _ (stepsProfiles_of_ends (fun w => ends_createUser e n x w)
      fun _ _ _ => profilesStep_of_added)
  | currentUser c =>
    exact stepsProfiles_of_keeps (frames_bind (frames_callerOf? c) fun caller =>
      frames_bind (keeps_currentUser caller) fun _ => frames_pure _)
  | userById t c =>
    exact stepsProfiles_of_keeps (frames_bind (frames_callerOf? c) fun caller =>
      frames_bind (keeps_userById t caller) fun _ => frames_pure _)
  | userByEmail e c =>
    exact stepsProfiles_of_keeps (frames_bind (frames_callerOf? c) fun caller =>
      frames_bind (keeps_userByEmail e caller) fun _ => frames_pure _)
  | renameUser t n c =>
    exact stepsProfiles_bind_left (frames_callerOf? c) fun caller =>
      stepsProfiles_bind_right (stepsProfiles_of_ends (fun w => ends_renameUser t n caller w)
        fun _ _ _ => profilesStep_of_renamed) fun _ => frames_pure _
  | deleteUser t c =>
    exact stepsProfiles_bind_left (frames_callerOf? c) fun caller =>
      stepsProfiles_bind_right (stepsProfiles_of_ends (fun w => ends_deleteUser t caller w)
        fun _ _ _ => profilesStep_of_deleted) fun _ => frames_pure _
  | listUsers sortBy direction r =>
    refine stepsProfiles_of_keeps ?_
    dsimp only [runStep]
    split
    · exact frames_throw _
    · exact frames_throw _
    · exact frames_map _ (keeps_listUsers _)
  | resolve x => exact stepsProfiles_of_keeps (frames_map _ (keeps_resolve x))
  | authorize x r t =>
    refine stepsProfiles_of_keeps ?_
    dsimp only [runStep]
    split
    · exact frames_throw _
    · exact frames_map _ (keeps_authorize _ _ _)
  | authorizeCaller c t =>
    exact stepsProfiles_of_keeps (frames_bind (frames_callerOf c) fun caller =>
      frames_bind (keeps_authorizeCaller caller t) fun _ => frames_pure _)
  | isAdmin c =>
    exact stepsProfiles_of_keeps (frames_bind (frames_callerOf c) fun caller =>
      frames_bind (keeps_isAdmin caller) fun _ => frames_pure _)
  | storeGetById t d => exact stepsProfiles_of_keeps (frames_map _ (keeps_storeById t d))
  | storeGetByEmail e d =>
    refine stepsProfiles_of_keeps ?_
    dsimp only [runStep]
    split
    · exact frames_map _ (frames_liftStore (Store.keeps_reading _))
    · exact frames_bind (frames_liftStore Store.keeps_beginRead) fun _ => frames_throw _
  | storeGetByExternalId x d =>
    refine stepsProfiles_of_keeps ?_
    dsimp only [runStep]
    split
    · exact frames_map _ (frames_liftStore (Store.keeps_reading _))
    · exact frames_bind (frames_liftStore Store.keeps_beginRead) fun _ => frames_pure _
  | storeAdd spec =>
    exact stepsProfiles_bind_of_result (frames_createFrom spec) (fun _ _ h => createFrom_id h)
      fun p hu => stepsProfiles_bind_right (stepsProfiles_liftStore (profilesStep_add hu)) fun _ =>
        frames_pure _
  | storeSoftDelete t =>
    refine stepsProfiles_map _ (stepsProfiles_bind_left frames_now fun now => ?_)
    split
    · exact stepsProfiles_liftStore (profilesStep_softDelete _ now)
    · refine stepsProfiles_of_keeps
        (frames_bind (frames_liftStore Store.keeps_beginWrite) fun _ => ?_)
      split
      · exact frames_pure _
      · exact frames_throw _
  | providerEnsure e p n =>
    exact stepsProfiles_of_keeps (frames_map _ (frames_ensureAdmin e p n))
  | bootstrap c => exact stepsProfiles_map _ (stepsProfiles_seedAdmin c)

/-! ## Runs -/

/-- The world after running steps in order, each one reported. -/
def worldAfter [V : Mail.AddressValidator] (steps : List Step) (w : World) : World :=
  ((runSteps steps).run w).2

theorem reportStep_world [V : Mail.AddressValidator] (st : Step) (w : World) :
    ((reportStep st).run w).2 = ((runStep st).exec { w with events := [] }).2 := by
  rfl

theorem worldAfter_nil [V : Mail.AddressValidator] (w : World) : worldAfter [] w = w := rfl

theorem worldAfter_cons [V : Mail.AddressValidator] (st : Step) (rest : List Step) (w : World) :
    worldAfter (st :: rest) w = worldAfter rest ((runStep st).exec { w with events := [] }).2 := by
  rw [← reportStep_world]
  simp only [worldAfter, runSteps, List.mapM_cons, StateT.run_bind]
  rfl

theorem worldAfter_append [V : Mail.AddressValidator] (l₁ l₂ : List Step) (w : World) :
    worldAfter (l₁ ++ l₂) w = worldAfter l₂ (worldAfter l₁ w) := by
  induction l₁ generalizing w with
  | nil => rfl
  | cons st rest ih => rw [List.cons_append, worldAfter_cons, worldAfter_cons, ih]

theorem profilesStep_worldAfter_single [V : Mail.AddressValidator] (st : Step) (w : World) :
    ProfilesStep st.addsProfile w.store (worldAfter [st] w).store := by
  rw [worldAfter_cons, worldAfter_nil]
  exact stepsProfiles_runStep st { w with events := [] }

end UserDirectory.Session
