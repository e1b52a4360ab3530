import UserDirectory.Proofs.IdText
import UserDirectory.Proofs.Ownership

/-!
# Reading a profile by id and by email

A live profile of a reachable store can be read by its id and by its email. Reading by id finds
it and hands it to `permit`; so does reading by email, provided that the stored email, checked
again as a request's email, comes back as the key it is stored under (`EmailReadsBack`). The two
reads then run alike for every caller: the same answer, the same reported events, the same world.

The proviso is not always met. Lower-casing can lengthen an email: `İ` becomes `i` followed by
U+0307, one more character and one more byte. An address of many of them is within the bound on
its length before it is lower-cased and beyond it after, so the stored email fails the check when
it is read back, and reading by email answers that refusal. For the callers that may read the
profile (`Reader`) reading by email gives the profile exactly when the stored email reads back.

Reading by id gives the profile to every reader: a request with no caller, a caller that
resolves to an administrator, and the owner, whose external id normalizes to the profile's. The
owner also gets the profile as its own, and may rename and delete it.
-/

namespace UserDirectory.Account

open Act

/-! ## Checking a text as an email -/

theorem normalizeEmailField_text [V : Mail.AddressValidator] (t : Text) :
    normalizeEmailField (.text t) =
      match t.toString? with
      | none => .error .emailMalformed
      | some str =>
        match Mail.normalizeEmail str with
        | .ok e => .ok e
        | .error .missing => .error .emailMissing
        | .error .invalid => .error .emailMalformed := rfl

theorem normalizeEmailField_text_refuses [V : Mail.AddressValidator] {t : Text} {e : FieldError}
    (h : normalizeEmailField (.text t) = .error e) : e.refuses = true := by
  rw [normalizeEmailField_text] at h
  split at h
  · cases h
    rfl
  · split at h
    · cases h
    · cases h
      rfl
    · cases h
      rfl

/-- The stored email, checked again as a request's email, is the key it is stored under. -/
def EmailReadsBack [V : Mail.AddressValidator] (r : Profile) : Prop :=
  ∃ m, normalizeEmailField (.ofString r.email) = .ok m ∧
    (Text.ofString m).strip.lower = Text.ofString r.email

/-- The callers that may read a profile: no caller at all, a caller that resolves to an
administrator, and the owner, whose external id normalizes to the profile's. -/
def Reader (s : Store) (r : Profile) : Option Caller → Prop
  | none => True
  | some c => (∃ a, resolution s c.externalId = .ok a ∧ a.role = .admin) ∨
      normalizeExternalId (.text c.externalId) = .ok r.externalId

variable {w : World} {r : Profile}

/-! ## What a read gives -/

theorem permit_gives {p x : Profile} {caller : Option Caller} {action : String}
    (hr : w.store.readFailure = none) (h : ((permit p caller action).exec w).1 = .ok (.ok x)) :
    x = p := by
  cases caller with
  | none =>
    rw [exec_permit_none] at h
    cases h
    rfl
  | some c =>
    rcases exec_permit (c := c) p action hr with ⟨_, he⟩ | ⟨_, he⟩
    · rw [he] at h
      cases h
      rfl
    · rw [he] at h
      cases h

theorem userByEmail_gives [V : Mail.AddressValidator] {e : Given} {m : String}
    (hm : normalizeEmailField e = .ok m)
    (caller : Option Caller) (hr : w.store.readFailure = none) {x : Profile}
    (h : ((userByEmail e caller).exec w).1 = .ok (.ok x)) : emailTarget w.store m = some x := by
  rw [exec_userByEmail hm caller hr] at h
  cases ht : emailTarget w.store m with
  | none =>
    rw [ht] at h
    cases h
  | some p =>
    rw [ht] at h
    rw [permit_gives hr h]

theorem exec_userByEmail_refused [V : Mail.AddressValidator] {e : Given} {f : FieldError}
    (hf : normalizeEmailField e = .error f) (hre : f.refuses = true) (caller : Option Caller) :
    (userByEmail e caller).exec w = (.ok (.error (.validation f.message)), w) := by
  unfold userByEmail
  rw [hf, checkField_error, if_pos hre]
  rfl

/-! ## Finding a live profile in a store with unique keys -/

section Live

variable {s : Store} (hu : Store.Unique s.profiles) (hr : r ∈ s.profiles) (hl : r.deleted = false)
include hu hr hl

theorem emailTarget_self {m : String}
    (hkey : (Text.ofString m).strip.lower = Text.ofString r.email) : emailTarget s m = some r :=
  (Store.firstVisible_eq_some_iff (hu.emails.comp Store.ofString_injective) _ _
    fun _ => beq_iff_eq).mpr ⟨hr, hl, hkey.symm⟩

theorem findVisible_self : (s.find? r.id).filter (·.visible false) = some r :=
  filter_visible_eq_some.mpr ⟨Store.find?_self hu.ids hr, hl⟩

theorem resolution_owner {c : Caller}
    (hc : normalizeExternalId (.text c.externalId) = .ok r.externalId) :
    resolution s c.externalId = .ok r := by
  have hf : s.firstVisible (·.externalId == r.externalId) false = some r :=
    (Store.firstVisible_eq_some_iff hu.externalIds _ _ fun _ => beq_iff_eq).mpr ⟨hr, hl, rfl⟩
  unfold resolution
  rw [hc]
  dsimp only
  rw [hf]

theorem Reader.mayAct {c : Caller} (h : Reader s r (some c)) : MayAct s c r.id := by
  rcases h with ⟨a, ha, hrole⟩ | hc
  · exact ⟨a, ha, .inl hrole⟩
  · exact ⟨r, resolution_owner hu hr hl hc, .inr rfl⟩

end Live

/-! ## Reading a live profile of a reachable store -/

section Reachable

variable (hs : Store.Reachable w.store) (hr : r ∈ w.store.profiles) (hl : r.deleted = false)
include hs hr hl

theorem exec_userById_live (hid : parseUserId (.ofString r.id) = .ok r.id)
    (caller : Option Caller) :
    (userById (.ofString r.id) caller).exec w = (permit r caller "read").exec w := by
  rw [exec_userById hid caller hs.readFailure, exec_loadFor _ _ caller hs.readFailure,
    findVisible_self hs.unique hr hl]

theorem exec_userByEmail_live [V : Mail.AddressValidator] {m : String}
    (hm : normalizeEmailField (.ofString r.email) = .ok m)
    (hkey : (Text.ofString m).strip.lower = Text.ofString r.email) (caller : Option Caller) :
    (userByEmail (.ofString r.email) caller).exec w = (permit r caller "read").exec w := by
  rw [exec_userByEmail hm caller hs.readFailure, emailTarget_self hs.unique hr hl hkey]

theorem exec_permit_reader {caller : Option Caller} (h : Reader w.store r caller) :
    (permit r caller "read").exec w = (.ok (.ok r), w) := by
  cases caller with
  | none => rfl
  | some c =>
    rcases exec_permit (c := c) r "read" hs.readFailure with ⟨_, he⟩ | ⟨hno, _⟩
    · exact he
    · exact absurd (h.mayAct hs.unique hr hl) hno

theorem userByEmail_reader_iff [V : Mail.AddressValidator] {caller : Option Caller}
    (h : Reader w.store r caller) :
    (userByEmail (.ofString r.email) caller).exec w = (.ok (.ok r), w) ↔ EmailReadsBack r := by
  constructor
  · intro he
    cases hn : normalizeEmailField (.ofString r.email) with
    | error f =>
      rw [exec_userByEmail_refused hn (normalizeEmailField_text_refuses hn)] at he
      cases he
    | ok m =>
      have ht := userByEmail_gives hn caller hs.readFailure (congrArg Prod.fst he)
      exact ⟨m, hn, (emailTarget_spec ht).2.2.symm⟩
  · rintro ⟨m, hm, hkey⟩
    rw [exec_userByEmail_live hs hr hl hm hkey, exec_permit_reader hs hr hl h]

end Reachable

theorem exec_currentUser (c : Caller) (hr : w.store.readFailure = none) :
    (currentUser (some c)).exec w = (.ok (resolution w.store c.externalId), w) := by
  unfold currentUser
  simp [exec_resolve_text _ hr]

/-- What reading a live profile of a reachable store gives. -/
structure LiveReads [V : Mail.AddressValidator] (w : World) (r : Profile) : Prop where
  /-- every reader gets the profile by id, and nothing is reported -/
  byId : ∀ caller, Reader w.store r caller →
    (userById (.ofString r.id) caller).exec w = (.ok (.ok r), w)
  /-- a reader gets it by email exactly when the stored email reads back as itself -/
  byEmail : ∀ caller, Reader w.store r caller →
    ((userByEmail (.ofString r.email) caller).exec w = (.ok (.ok r), w) ↔ EmailReadsBack r)
  /-- when it does, reading by email runs as reading by id, for every caller -/
  agree : EmailReadsBack r → ∀ caller,
    (userByEmail (.ofString r.email) caller).exec w = (userById (.ofString r.id) caller).exec w
  /-- a stored email that is refused when it is read back is answered with the refusal -/
  refused : ∀ caller f, normalizeEmailField (.ofString r.email) = .error f →
    (userByEmail (.ofString r.email) caller).exec w = (.ok (.error (.validation f.message)), w)
  /-- the owner gets the profile as its own, and may rename and delete it -/
  owner : ∀ c : Caller, normalizeExternalId (.text c.externalId) = .ok r.externalId →
    (currentUser (some c)).exec w = (.ok (.ok r), w) ∧
    (∀ n name, normalizeDisplayName n = .ok name →
      ((renameUser (.ofString r.id) n (some c)).exec w).1 = .ok (.ok (r.rename name w.clock))) ∧
    ((deleteUser (.ofString r.id) (some c)).exec w).1 = .ok (.ok (r.markDeleted w.clock))

/-- A live profile of a reachable store, whose id is the canonical text of an identifier as every
id the service makes is, is never denied to its owner, to an administrator or to a request with
no caller when it is read by id. Reading it by email runs exactly as reading it by id when the
stored email reads back as itself, and a reader gets it by email only then. -/
theorem live_profile_reads [V : Mail.AddressValidator] (w : World) (r : Profile)
    (hs : Store.Reachable w.store)
    (hr : r ∈ w.store.profiles) (hl : r.deleted = false) (u : Ident.Uuid) (hu : r.id = u.text) :
    LiveReads w r :=
  have hid : parseUserId (.ofString r.id) = .ok r.id := hu ▸ parseUserId_text u
  { byId := fun caller h => by
      rw [exec_userById_live hs hr hl hid, exec_permit_reader hs hr hl h]
    byEmail := fun _ h => userByEmail_reader_iff hs hr hl h
    agree := by
      rintro ⟨m, hm, hkey⟩ caller
      rw [exec_userByEmail_live hs hr hl hm hkey, exec_userById_live hs hr hl hid]
    refused := fun caller f hf =>
      exec_userByEmail_refused hf (normalizeEmailField_text_refuses hf) caller
    owner := fun c hc => by
      have hres : resolution w.store c.externalId = .ok r := resolution_owner hs.unique hr hl hc
      have hadm : Admitted w.store c r.id r :=
        ⟨Store.find?_self hs.unique.ids hr, hl, ⟨r, hres, .inr rfl⟩⟩
      refine ⟨?_, fun n name hn => ?_, ?_⟩
      · rw [exec_currentUser c hs.readFailure, hres]
      · exact (exec_renameUser_admitted hid hn hs.readFailure hs.writeFailure hadm).1
      · exact (exec_deleteUser_admitted hid hs.readFailure hs.writeFailure hadm).1 }

/-- The store with one added profile, whose id is the first identifier: the profile is live
there. -/
theorem live_profile_reads_added :
    let p : Profile :=
      { id := "00000000-0000-0000-0000-000000000001"
        email := "a@example.com"
        displayName := Text.ofString "A"
        externalId := Text.ofString "ext-1"
        role := .user
        createdAt := Instant.sessionStart }
    let w : World := { store := (Store.add p {}).2 }
    Store.Reachable w.store ∧ p ∈ w.store.profiles ∧ p.deleted = false ∧
      p.id = (Ident.Uuid.ofNat 1).text ∧ LiveReads (V := Session.emailValidator) w p := by
  intro p w
  have hs : Store.Reachable w.store := .add p .empty
  have hr : p ∈ w.store.profiles := List.mem_singleton_self p
  have hu : p.id = (Ident.Uuid.ofNat 1).text := by decide
  exact ⟨hs, hr, rfl, hu, live_profile_reads (V := Session.emailValidator) w p hs hr rfl _ hu⟩

end UserDirectory.Account
