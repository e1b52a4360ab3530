import Mathlib.Order.Defs.Unbundled
import UserDirectory.Proofs.Ownership
import UserDirectory.Session.Scenario

/-!
# What an operation may do to the store

A run of an operation relates the store before it to the store after it. `Act.Frames R x` says
that every run of `x`, from any world, relates them by `R`. When `R` is a preorder this is kept by
`pure`, `>>=`, `attempt`, a thrown fault and a store operation that relates its own stores by
`R`, so a `do` block is checked piece by piece, one lemma per piece.

Two relations are used:

* equality: the operation does not touch the store at all. Drawing an identifier, asking the
  identity provider, moving the clock, making a caller and making a new profile are such;
* `Store.Keeps`: the profiles and the write counts stay, and each one-shot failure is left armed
  or consumed, never armed anew. Every operation of the directory that only reads keeps the
  store so: resolving and authorizing callers, reading a profile by id or by email, a caller's
  own profile, listing, and the scenario's direct reads of the store.
-/

namespace UserDirectory.Account

open Act

/-- `s'` has the profiles and the write counts of `s`, and each failure slot of `s` is left as
it was or consumed. -/
structure Store.Keeps (s s' : Store) : Prop where
  profiles : s'.profiles = s.profiles
  adds : s'.adds = s.adds
  updates : s'.updates = s.updates
  softDeletes : s'.softDeletes = s.softDeletes
  readFailure : s'.readFailure = s.readFailure ∨ s'.readFailure = none
  writeFailure : s'.writeFailure = s.writeFailure ∨ s'.writeFailure = none

namespace Store.Keeps

theorem refl (s : Store) : s.Keeps s := ⟨rfl, rfl, rfl, rfl, .inl rfl, .inl rfl⟩

theorem trans {s₁ s₂ s₃ : Store} (h₁ : s₁.Keeps s₂) (h₂ : s₂.Keeps s₃) :
    s₁.Keeps s₃ where
  profiles := h₂.profiles.trans h₁.profiles
  adds := h₂.adds.trans h₁.adds
  updates := h₂.updates.trans h₁.updates
  softDeletes := h₂.softDeletes.trans h₁.softDeletes
  readFailure := by
    rcases h₂.readFailure with h | h
    · rw [h]
      exact h₁.readFailure
    · exact .inr h
  writeFailure := by
    rcases h₂.writeFailure with h | h
    · rw [h]
      exact h₁.writeFailure
    · exact .inr h

instance : IsPreorder Store Store.Keeps where
  refl := refl
  trans _ _ _ := trans

theorem disarmRead (s : Store) : s.Keeps { s with readFailure := none } :=
  ⟨rfl, rfl, rfl, rfl, .inr rfl, .inl rfl⟩

theorem disarmWrite (s : Store) : s.Keeps { s with writeFailure := none } :=
  ⟨rfl, rfl, rfl, rfl, .inl rfl, .inr rfl⟩

end Store.Keeps

namespace Store

theorem keeps_beginRead (s : Store) : s.Keeps s.beginRead.2 := by
  unfold beginRead
  split
  · exact Keeps.disarmRead s
  · exact Keeps.refl s

theorem keeps_beginWrite (s : Store) : s.Keeps s.beginWrite.2 := by
  unfold beginWrite
  split
  · exact Keeps.disarmWrite s
  · exact Keeps.refl s

theorem keeps_reading {α : Type} (f : Store → α) (s : Store) : s.Keeps (reading f s).2 := by
  have h := keeps_beginRead s
  unfold reading
  rcases hb : s.beginRead with ⟨_ | ⟨⟩, s'⟩ <;> rw [hb] at h <;> exact h

end Store

/-! ## Frames of runs -/

/-- Every run of `x` relates the store before it to the store after it by `R`. -/
def Act.Frames {α : Type} (R : Store → Store → Prop) (x : Act α) : Prop :=
  ∀ w, R w.store (x.exec w).2.store

section Combinators

variable {α β : Type} {R : Store → Store → Prop} {x : Act α}

theorem frames_pure [IsPreorder Store R] (a : α) : Frames R (pure a : Act α) :=
  fun w => refl_of R w.store

theorem frames_throw [IsPreorder Store R] (e : Fault) : Frames R (throw e : Act α) :=
  fun w => refl_of R w.store

theorem frames_bind [IsPreorder Store R] {f : α → Act β} (hx : Frames R x)
    (hf : ∀ a, Frames R (f a)) :
    Frames R (x >>= f) := by
  intro w
  have h := hx w
  rw [exec_bind]
  rcases hxw : x.exec w with ⟨_ | a, w'⟩ <;> rw [hxw] at h
  · exact h
  · exact trans_of R h (hf a w')

theorem frames_throw_bind [IsPreorder Store R] (e : Fault) (f : α → Act β) :
    Frames R (throw e >>= f) := fun w => refl_of R w.store

theorem frames_map (g : α → β) (hx : Frames R x) : Frames R (g <$> x) := by
  intro w
  have h := hx w
  rw [exec_map]
  rcases hxw : x.exec w with ⟨_ | a, w'⟩ <;> rw [hxw] at h <;> exact h

theorem frames_attempt (hx : Frames R x) : Frames R (attempt x) := by
  intro w
  have h := hx w
  rw [exec_attempt]
  rcases hxw : x.exec w with ⟨_ | a, w'⟩ <;> rw [hxw] at h <;> exact h

theorem frames_get_bind {f : World → Act β} (h : ∀ w, R w.store ((f w).exec w).2.store) :
    Frames R (get >>= f) := by
  intro w
  rw [exec_bind, exec_get]
  exact h w

theorem frames_liftStore {g : Store → StoreStep α} (h : ∀ s, R s (g s).2) :
    Frames R (liftStore g) := by
  intro w
  have hg := h w.store
  rw [exec_liftStore]
  rcases hgw : g w.store with ⟨_ | a, s'⟩ <;> rw [hgw] at hg <;> exact hg

theorem frames_modify [IsPreorder Store R] {g : World → World}
    (hg : ∀ w, (g w).store = w.store) : Frames R (modify g) :=
  fun w => (hg w).symm ▸ refl_of R w.store

theorem frames_now [IsPreorder Store R] : Frames R now := fun w => refl_of R w.store

theorem frames_notify [IsPreorder Store R] (e : Event) : Frames R (notify e) :=
  fun w => refl_of R w.store

theorem frames_checkField [IsPreorder Store R] {r : Except FieldError α}
    {k : α → Act (Outcome β)} (hk : ∀ a, Frames R (k a)) : Frames R (checkField r k) := by
  cases r with
  | ok a => exact hk a
  | error e =>
    rw [checkField_error]
    split
    · exact frames_pure _
    · exact frames_throw _

theorem frames_requireField [IsPreorder Store R] (r : Except FieldError α) :
    Frames R (requireField r) := by
  cases r with
  | ok a => exact frames_pure a
  | error e => exact frames_throw _

theorem frames_requireUse [IsPreorder Store R] (r : Except Misuse α) :
    Frames R (requireUse r) := by
  cases r with
  | ok a => exact frames_pure a
  | error e => exact frames_throw _

end Combinators

/-! ## Operations that leave the store alone -/

section Leaves

variable {R : Store → Store → Prop} [IsPreorder Store R]

theorem frames_freshId : Frames R freshId := by
  refine frames_get_bind fun w => ?_
  simp only [exec_bind, exec_set]
  split
  · exact refl_of R w.store
  · split
    · exact refl_of R w.store
    · exact refl_of R w.store

theorem frames_advanceClock (span : Seconds) : Frames R (advanceClock span) := by
  refine frames_get_bind fun w => ?_
  split
  · exact refl_of R w.store
  · exact refl_of R w.store

theorem frames_ensureAdmin (email password displayName : Given) :
    Frames R (ensureAdmin email password displayName) := by
  refine frames_bind (frames_modify fun _ => rfl) fun _ => frames_get_bind fun w => ?_
  split
  · simp only [exec_bind, exec_set, exec_throw]
    exact refl_of R w.store
  · -- from here on the provider changes, the store does not
    dsimp only
    split
    · refine frames_bind (frames_pure _) (fun key => ?_) w
      split
      · exact frames_bind (frames_pure _) fun _ =>
          frames_bind (frames_modify fun _ => rfl) fun _ => frames_pure _
      · exact frames_bind frames_freshId fun _ =>
          frames_bind (frames_modify fun _ => rfl) fun _ =>
            frames_bind (frames_pure _) fun _ =>
              frames_bind (frames_modify fun _ => rfl) fun _ => frames_pure _
    · exact frames_throw_bind _ _ w

theorem frames_createProfile [V : Mail.AddressValidator] (email displayName ext : Given)
    (role : Role) :
    Frames R (createProfile email displayName ext role) :=
  frames_bind frames_freshId fun _ =>
    frames_bind (frames_requireField _) fun _ =>
      frames_bind (frames_requireField _) fun _ =>
        frames_bind (frames_requireField _) fun _ =>
          frames_bind frames_now fun _ => frames_pure _

end Leaves

/-! ## Operations that only read -/

theorem keeps_resolve (ext : Given) : Frames Store.Keeps (resolve ext) := by
  unfold resolve
  split
  · split
    · exact frames_pure _
    · exact frames_throw _
  · refine frames_bind (frames_liftStore (Store.keeps_reading _)) fun found => ?_
    split
    · exact frames_pure _
    · exact frames_pure _

theorem keeps_authorizeCaller (c : Caller) (target : Given) :
    Frames Store.Keeps (authorizeCaller c target) := by
  refine frames_bind (keeps_resolve _) fun r => ?_
  split
  · exact frames_pure _
  · exact frames_pure _

theorem keeps_authorize (ext : Given) (known : Option Role) (target : Given) :
    Frames Store.Keeps (authorize ext known target) := by
  unfold authorize
  split
  · exact frames_pure _
  · exact frames_bind (keeps_resolve _) fun _ => frames_pure _

theorem keeps_isAdmin (c : Caller) : Frames Store.Keeps (isAdmin c) :=
  frames_bind (keeps_resolve _) fun _ => frames_pure _

theorem keeps_permit (p : Profile) (caller : Option Caller) (action : String) :
    Frames Store.Keeps (permit p caller action) := by
  unfold permit
  split
  · exact frames_pure _
  · refine frames_bind (keeps_authorizeCaller _ _) fun d => ?_
    split
    · exact frames_pure _
    · exact frames_bind (frames_notify _) fun _ => frames_pure _

theorem keeps_loadFor (id : String) (caller : Option Caller) (action : String) :
    Frames Store.Keeps (loadFor id caller action) := by
  refine frames_bind (frames_liftStore (Store.keeps_reading _)) fun found => ?_
  split
  · exact frames_pure _
  · exact keeps_permit _ _ _

theorem keeps_currentUser (caller : Option Caller) : Frames Store.Keeps (currentUser caller) := by
  unfold currentUser
  split
  · exact frames_pure _
  · refine frames_bind (frames_attempt (keeps_resolve _)) fun r => ?_
    split
    · exact frames_pure _
    · exact frames_pure _

theorem keeps_userById (t : Given) (caller : Option Caller) :
    Frames Store.Keeps (userById t caller) := by
  refine frames_checkField fun id => frames_bind (frames_attempt (keeps_loadFor _ _ _)) fun r => ?_
  split
  · exact frames_pure _
  · exact frames_pure _

theorem keeps_userByEmail [V : Mail.AddressValidator] (e : Given) (caller : Option Caller) :
    Frames Store.Keeps (userByEmail e caller) := by
  refine frames_checkField fun n => frames_bind (frames_attempt ?_) fun r => ?_
  · refine frames_bind (frames_liftStore (Store.keeps_reading _)) fun found => ?_
    split
    · exact frames_pure _
    · exact keeps_permit _ _ _
  · split
    · exact frames_pure _
    · exact frames_pure _

theorem keeps_listUsers (r : ListRequest) : Frames Store.Keeps (listUsers r) := by
  refine frames_bind (frames_requireUse _) fun below => ?_
  split
  · exact frames_pure _
  · refine frames_bind (frames_requireUse _) fun below' => ?_
    split
    · exact frames_pure _
    · refine frames_bind (frames_requireUse _) fun search =>
        frames_bind (frames_attempt (frames_liftStore (Store.keeps_reading _))) fun page => ?_
      split
      · exact frames_pure _
      · split
        · exact frames_pure _
        · exact frames_pure _

end UserDirectory.Account

namespace UserDirectory.Session

open UserDirectory.Account Act

theorem callerOf_world (spec : CallerSpec) (w : World) : ((callerOf spec).exec w).2 = w := by
  unfold callerOf
  split
  · rfl
  · split <;> rfl

theorem callerOf?_world (spec : Option CallerSpec) (w : World) :
    ((callerOf? spec).exec w).2 = w := by
  cases spec with
  | none => rfl
  | some spec =>
    have h := callerOf_world spec w
    simp only [callerOf?, exec_map]
    rcases hc : (callerOf spec).exec w with ⟨_ | c, w'⟩ <;> rw [hc] at h <;> exact h

variable {R : Store → Store → Prop} [IsPreorder Store R]

theorem frames_createFrom [V : Mail.AddressValidator] (spec : ProfileSpec) : Frames R
    (createFrom spec) := by
  unfold createFrom
  split
  · exact frames_throw _
  · exact frames_createProfile _ _ _ _

theorem keeps_readByOther (key : Given) : Frames Store.Keeps (readByOther key) := by
  refine frames_bind (frames_liftStore Store.keeps_beginRead) fun _ => ?_
  split
  · exact frames_pure _
  · exact frames_throw _

theorem keeps_storeById (key : Given) (includeDeleted : Bool) :
    Frames Store.Keeps (storeById key includeDeleted) := by
  unfold storeById
  split
  · split
    · exact frames_liftStore (Store.keeps_reading _)
    · exact frames_bind (frames_liftStore Store.keeps_beginRead) fun _ => frames_pure _
  · exact keeps_readByOther _

end UserDirectory.Session
