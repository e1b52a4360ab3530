import UserDirectory.Proofs.IdText
import UserDirectory.Proofs.Runs

/-!
# Soft deletion is terminal

Take a profile `d` that is stored under its id and marked deleted. For the rest of every run the
store keeps mapping `d.id` to `d` itself, unless a step that adds profiles puts a new profile
under that id (`deleted_stays_along`): renaming and deleting only replace live profiles, which
`d` is not, and nothing else writes (`ProfilesStep.deleted_stays`).

In any such store nothing hands `d` out. An update of any profile with `d`'s id, a stale copy
loaded before the deletion included, and a soft deletion of `d.id` answer nothing and change
nothing. The store's reads without deleted profiles, resolving a subject and every read, rename
and deletion of the directory answer only live profiles, or, for a deletion, the profile it has
just deleted, which has a live profile's id. Reading, renaming or deleting by `d.id` itself
answers not found; a listing holds `d` only when it asks for deleted profiles
(`deleted_profile_terminal`).
-/

namespace UserDirectory.Account

open Act

/-! ## Finding a profile by id after a write -/

theorem Store.find?_put_ne (ps : List Profile) {p : Profile} {id : String} (h : p.id ≠ id) :
    (Store.put ps p).find? (·.id == id) = ps.find? (·.id == id) := by
  unfold Store.put
  split
  · -- the profiles put in place of others do not have the id, and the others are kept
    rename_i hany
    clear hany
    induction ps with
    | nil => rfl
    | cons q qs ih =>
      rw [List.map_cons, List.find?_cons, List.find?_cons, ih]
      by_cases hq : q.id = p.id
      · have hp : (p.id == id) = false := beq_false_of_ne h
        rw [if_pos (beq_iff_eq.mpr hq), hp, hq, hp]
      · rw [if_neg (by simpa using hq)]
  · rw [List.find?_append]
    simp [h]

theorem Store.find?_of_put_ne {s s' : Store} {p : Profile} {id : String}
    (hs : s'.profiles = Store.put s.profiles p) (h : p.id ≠ id) : s'.find? id = s.find? id := by
  simp only [Store.find?, hs]
  exact Store.find?_put_ne s.profiles h

end UserDirectory.Account

namespace UserDirectory.Session

open UserDirectory.Account

/-! ## A deleted profile along a run -/

variable {d : Profile}

theorem ProfilesStep.deleted_stays {adds : Bool} {s s' : Store} (h : ProfilesStep adds s s')
    (hd : s.find? d.id = some d) (hdel : d.deleted = true) :
    s'.find? d.id = some d ∨
      adds = true ∧ ∃ p, p.id = d.id ∧ s'.profiles = Store.put s.profiles p := by
  cases h with
  | keep hs => exact .inl ((Store.find?_of_profiles hs).symm ▸ hd)
  | replace p r hf hl hs =>
    have hne : p.id ≠ d.id := by
      intro he
      rw [he, hd, Option.some.injEq] at hf
      rw [← hf, hdel] at hl
      cases hl
    exact .inl ((Store.find?_of_put_ne hs hne).trans hd)
  | insert p ha _ hs =>
    by_cases he : p.id = d.id
    · exact .inr ⟨ha, p, he, hs⟩
    · exact .inl ((Store.find?_of_put_ne hs he).trans hd)

theorem deleted_stays_along [V : Mail.AddressValidator] (steps : List Step) {w : World}
    (hd : w.store.find? d.id = some d)
    (hdel : d.deleted = true) :
    (worldAfter steps w).store.find? d.id = some d ∨
      ∃ pre st post, steps = pre ++ st :: post ∧ st.addsProfile = true ∧
        ∃ p, p.id = d.id ∧ (worldAfter (pre ++ [st]) w).store.profiles =
          Store.put (worldAfter pre w).store.profiles p := by
  induction steps generalizing w with
  | nil => exact .inl hd
  | cons st rest ih =>
    have hsplit : worldAfter (st :: rest) w = worldAfter rest (worldAfter [st] w) :=
      worldAfter_append [st] rest w
    rcases (profilesStep_worldAfter_single st w).deleted_stays hd hdel with
      h₁ | ⟨ha, p, hp, hs⟩
    · rcases ih h₁ with hf | ⟨pre, st', post, rfl, ha', p, hp, hs⟩
      · exact .inl (hsplit ▸ hf)
      · refine .inr ⟨st :: pre, st', post, rfl, ha', p, hp, ?_⟩
        have e₁ :
            worldAfter (st :: pre ++ [st']) w = worldAfter (pre ++ [st']) (worldAfter [st] w) :=
          worldAfter_append [st] (pre ++ [st']) w
        have e₂ : worldAfter (st :: pre) w = worldAfter pre (worldAfter [st] w) :=
          worldAfter_append [st] pre w
        rw [e₁, e₂]
        exact hs
    · exact .inr ⟨[], st, rest, rfl, ha, p, hp, hs⟩

end UserDirectory.Session

namespace UserDirectory.Account

open Act

variable {s : Store} {d : Profile}

/-! ## Writes to a deleted profile -/

theorem Store.update_deleted {p : Profile} (hw : s.writeFailure = none)
    (hd : s.find? p.id = some d) (hdel : d.deleted = true) : Store.update p s = (.ok none, s) := by
  simp [Store.update, Store.beginWrite_of_none hw, hd, hdel]

theorem Store.softDelete_deleted (now : Instant) (hw : s.writeFailure = none)
    (hd : s.find? d.id = some d) (hdel : d.deleted = true) :
    Store.softDelete d.id now s = (.ok none, s) := by
  simp [Store.softDelete, Store.beginWrite_of_none hw, hd, hdel]

/-! ## Reads answer live profiles -/

theorem Store.reading_eq_ok {α : Type} {f : Store → α} {a : α}
    (h : (Store.reading f s).1 = .ok a) : ∃ s', a = f s' := by
  unfold Store.reading at h
  split at h
  · cases h
  · cases h
    exact ⟨_, rfl⟩

theorem Store.firstVisible_live {test : Profile → Bool} {q : Profile}
    (h : s.firstVisible test false = some q) : q.deleted = false := by
  have hq := List.find?_some h
  simp only [Bool.and_eq_true, Profile.visible, Bool.false_or, Bool.not_eq_true'] at hq
  exact hq.2

theorem Store.getById_live {id : String} {q : Profile}
    (h : (Store.getById id false s).1 = .ok (some q)) : q.deleted = false := by
  obtain ⟨s', hs'⟩ := Store.reading_eq_ok h
  exact (filter_visible_eq_some.mp hs'.symm).2

theorem Store.getByEmail_live {e : Text} {q : Profile}
    (h : (Store.getByEmail e false s).1 = .ok (some q)) : q.deleted = false := by
  obtain ⟨s', hs'⟩ := Store.reading_eq_ok h
  exact Store.firstVisible_live hs'.symm

theorem Store.getByExternalId_live {x : Text} {q : Profile}
    (h : (Store.getByExternalId x false s).1 = .ok (some q)) : q.deleted = false := by
  obtain ⟨s', hs'⟩ := Store.reading_eq_ok h
  exact Store.firstVisible_live hs'.symm

variable {w : World}

theorem resolve_live {x : Given} {q : Profile} (h : ((resolve x).exec w).1 = .ok (.ok q)) :
    q.deleted = false := by
  unfold resolve at h
  split at h
  · split at h <;> cases h
  · simp only [exec_bind, exec_liftStore] at h
    rcases hg : Store.getByExternalId _ false w.store with ⟨_ | _ | q', s'⟩ <;> rw [hg] at h
    · cases h
    · cases h
    · cases h
      exact Store.getByExternalId_live (by rw [hg])

theorem Answered.live {q : Profile} {s s' : Store} (h : Answered q s s') : q.deleted = false :=
  h.2.2

theorem listUsers_page {r : ListRequest} {page : Page}
    (h : ((listUsers r).exec w).1 = .ok (.ok page)) :
    ∃ q : Query, q.deleted = r.deleted ∧ page = Store.page q w.store := by
  unfold listUsers at h
  simp only [exec_bind, requireUse] at h
  rcases hn : r.pageNumber.belowOne with m | _ | _ <;>
    simp only [hn, exec_throw, exec_pure, ↓reduceIte, Bool.false_eq_true] at h
  case error => cases h
  case ok.true => cases h
  rcases hz : r.pageSize.belowOne with m | _ | _ <;>
    simp only [hz, exec_bind, exec_throw, exec_pure, ↓reduceIte, Bool.false_eq_true,
      pure_bind] at h
  case error => cases h
  case ok.true => cases h
  rcases hs : Except.mapError (fun k => Misuse.noAttribute k "strip") r.search.orEmpty with m | t
  · simp only [hs, exec_throw] at h
    cases h
  simp only [hs, exec_pure, exec_attempt, exec_liftStore, Store.getPage] at h
  cases hr : w.store.readFailure with
  | some m =>
    rw [Store.reading_of_some _ hr] at h
    cases h
  | none =>
    rw [Store.reading_of_none _ hr] at h
    dsimp only at h
    split at h
    · cases h
    · cases h
      exact ⟨_, rfl, rfl⟩

theorem Store.mem_page {q : Query} {p : Profile} (h : p ∈ (Store.page q s).items) :
    p ∈ s.profiles ∧ p.deleted = q.deleted := by
  have hm : p ∈ orderedMatches q s.profiles := List.mem_of_mem_drop (List.mem_of_mem_take h)
  have hf : p ∈ (s.profiles.filter fun p => p.deleted == q.deleted).filter
      (matchesSearch q.search.strip.lower) := by
    unfold orderedMatches at hm
    split at hm <;> simpa only [List.mem_mergeSort] using hm
  obtain ⟨hf, -⟩ := List.mem_filter.mp hf
  obtain ⟨hs, hd⟩ := List.mem_filter.mp hf
  exact ⟨hs, beq_iff_eq.mp hd⟩

/-! ## Operations on a deleted profile -/

section Deleted

variable (hd : w.store.find? d.id = some d) (hdel : d.deleted = true)
include hd hdel

theorem exec_loadFor_deleted (caller : Option Caller) (action : String)
    (hr : w.store.readFailure = none) :
    (loadFor d.id caller action).exec w = (.ok (.error .notFound), w) := by
  have hf : (w.store.find? d.id).filter (·.visible false) = none := by
    rw [hd]
    simp [Profile.visible, hdel]
  rw [exec_loadFor d.id action caller hr, hf]

theorem deleteUser_ne_deleted (t : Given) (caller : Option Caller) :
    ((deleteUser t caller).exec w).1 ≠ .ok (.ok d) := by
  intro h
  obtain ⟨id, r, -, hr, hl, hp, -⟩ := (Effects.of_ends (ends_deleteUser t caller w)).success d h
  have hid : d.id = id := by rw [hp, Profile.markDeleted_id, Store.find?_id hr]
  rw [hid, hr, Option.some.injEq] at hd
  rw [hd, hdel] at hl
  cases hl

theorem exec_renameUser_deleted {n : Given} {name : Text} (caller : Option Caller)
    (ht : parseUserId (.ofString d.id) = .ok d.id) (hn : normalizeDisplayName n = .ok name)
    (hr : w.store.readFailure = none) :
    (renameUser (.ofString d.id) n caller).exec w = (.ok (.error .notFound), w) := by
  unfold renameUser
  rw [ht, checkField_ok, hn, checkField_ok]
  simp only [exec_bind, exec_attempt, exec_loadFor_deleted hd hdel caller "rename" hr, exec_pure]

theorem exec_deleteUser_deleted (caller : Option Caller)
    (ht : parseUserId (.ofString d.id) = .ok d.id) (hr : w.store.readFailure = none) :
    (deleteUser (.ofString d.id) caller).exec w = (.ok (.error .notFound), w) := by
  unfold deleteUser
  rw [ht, checkField_ok]
  simp only [exec_bind, exec_attempt, exec_loadFor_deleted hd hdel caller "delete" hr, exec_pure]

end Deleted

theorem Profile.ne_of_deleted {q : Profile} (hdel : d.deleted = true) (hq : q.deleted = false) :
    q ≠ d := by
  rintro rfl
  rw [hdel] at hq
  cases hq

/-- What soft deletion leaves of a profile `d` stored deleted in the world `w`. -/
structure DeletionTerminal [V : Mail.AddressValidator] (w : World) (d : Profile) : Prop where
  /-- along every run `d` stays under its id, unless a step adds a profile under that id -/
  stays : ∀ steps, (Session.worldAfter steps w).store.find? d.id = some d ∨
    ∃ pre st post, steps = pre ++ st :: post ∧ st.addsProfile = true ∧ ∃ p, p.id = d.id ∧
      (Session.worldAfter (pre ++ [st]) w).store.profiles =
        Store.put (Session.worldAfter pre w).store.profiles p
  /-- an update of any profile with its id answers nothing and changes nothing -/
  update : w.store.writeFailure = none → ∀ p : Profile, p.id = d.id →
    Store.update p w.store = (.ok none, w.store)
  /-- soft-deleting it again answers nothing and changes nothing -/
  softDelete : w.store.writeFailure = none → ∀ now,
    Store.softDelete d.id now w.store = (.ok none, w.store)
  /-- the store's reads without deleted profiles never answer it -/
  storeReads : ∀ id e x, (Store.getById id false w.store).1 ≠ .ok (some d) ∧
    (Store.getByEmail e false w.store).1 ≠ .ok (some d) ∧
    (Store.getByExternalId x false w.store).1 ≠ .ok (some d)
  /-- resolving a subject never answers it -/
  resolve : ∀ x, ((resolve x).exec w).1 ≠ .ok (.ok d)
  /-- no read, rename or deletion of the directory answers it -/
  operations : ∀ t n e caller, ((currentUser caller).exec w).1 ≠ .ok (.ok d) ∧
    ((userById t caller).exec w).1 ≠ .ok (.ok d) ∧
    ((userByEmail e caller).exec w).1 ≠ .ok (.ok d) ∧
    ((renameUser t n caller).exec w).1 ≠ .ok (.ok d) ∧
    ((deleteUser t caller).exec w).1 ≠ .ok (.ok d)
  /-- reading, renaming to an accepted name and deleting by its id answer not found -/
  byId : w.store.readFailure = none → ∀ caller n name, normalizeDisplayName n = .ok name →
    ((userById (.ofString d.id) caller).exec w).1 = .ok (.error .notFound) ∧
    ((renameUser (.ofString d.id) n caller).exec w).1 = .ok (.error .notFound) ∧
    ((deleteUser (.ofString d.id) caller).exec w).1 = .ok (.error .notFound)
  /-- a listing holds it only when it asks for deleted profiles -/
  listing : ∀ r page, ((listUsers r).exec w).1 = .ok (.ok page) → d ∈ page.items →
    r.deleted = true

/-- Soft deletion is terminal: a profile stored deleted under its id, the text of an identifier,
stays as it is for the rest of every run unless a profile is added under its id, cannot be
written again, and is never handed out; by its id it is not found. -/
theorem deleted_profile_terminal [V : Mail.AddressValidator] (hd : w.store.find? d.id = some d)
    (hdel : d.deleted = true)
    (hid : ∃ u : Ident.Uuid, d.id = u.text) : DeletionTerminal w d where
  stays steps := Session.deleted_stays_along steps hd hdel
  update hw p hp := Store.update_deleted hw (hp ▸ hd) hdel
  softDelete hw now := Store.softDelete_deleted now hw hd hdel
  storeReads _ _ _ :=
    ⟨fun h => Profile.ne_of_deleted hdel (Store.getById_live h) rfl,
      fun h => Profile.ne_of_deleted hdel (Store.getByEmail_live h) rfl,
      fun h => Profile.ne_of_deleted hdel (Store.getByExternalId_live h) rfl⟩
  resolve _ h := Profile.ne_of_deleted hdel (resolve_live h) rfl
  operations t n e caller :=
    ⟨fun h => Profile.ne_of_deleted hdel
        ((Effects.of_ends (ends_currentUser caller w)).success d h).live rfl,
      fun h => Profile.ne_of_deleted hdel
        ((Effects.of_ends (ends_userById t caller w)).success d h).live rfl,
      fun h => Profile.ne_of_deleted hdel
        ((Effects.of_ends (ends_userByEmail e caller w)).success d h).live rfl,
      fun h => by
        obtain ⟨_, _, r, -, -, -, hl, hp, -⟩ :=
          (Effects.of_ends (ends_renameUser t n caller w)).success d h
        have hlive : d.deleted = false := by rw [hp]; exact hl
        exact Profile.ne_of_deleted hdel hlive rfl,
      deleteUser_ne_deleted hd hdel t caller⟩
  byId hr caller n name hn := by
    obtain ⟨u, hu⟩ := hid
    have ht : parseUserId (.ofString d.id) = .ok d.id := hu ▸ parseUserId_text u
    refine ⟨?_, by rw [exec_renameUser_deleted hd hdel caller ht hn hr],
      by rw [exec_deleteUser_deleted hd hdel caller ht hr]⟩
    rw [exec_userById ht caller hr, exec_loadFor_deleted hd hdel caller "read" hr]
  listing r page h hmem := by
    obtain ⟨q, hq, rfl⟩ := listUsers_page h
    rw [← hq, ← (Store.mem_page hmem).2, hdel]

/-- A store holding one deleted profile, whose id is the first identifier. -/
theorem deleted_profile_terminal_stored :
    let d : Profile :=
      { id := "00000000-0000-0000-0000-000000000001"
        email := "a@example.com"
        displayName := Text.ofString "A"
        externalId := Text.ofString "ext-1"
        role := .user
        createdAt := Instant.sessionStart
        deleted := true
        deletedAt := some Instant.sessionStart }
    let w : World := { store := { profiles := [d] } }
    w.store.find? d.id = some d ∧ d.deleted = true ∧ d.id = (Ident.Uuid.ofNat 1).text ∧
      DeletionTerminal (V := Session.emailValidator) w d := by
  intro d w
  have hd : w.store.find? d.id = some d := by simp [w, Store.find?]
  have hu : d.id = (Ident.Uuid.ofNat 1).text := by decide
  exact ⟨hd, rfl, hu, deleted_profile_terminal (V := Session.emailValidator) hd rfl ⟨_, hu⟩⟩

end UserDirectory.Account
