import UserDirectory.Proofs.Runs
import UserDirectory.Proofs.Seeding

/-!
# Security events match the writes

Every operation of the directory reports at most one security event, and the event says what the
operation did (`Logged`):

* each write counter of the store grows by the number of success events that stand for it: a
  creation or a seeded administrator for the additions, an update for the updates, a deletion
  for the soft deletions (`EventName.counter?`);
* a success event names the profile written, which was put in the store under its own id;
* a success event comes only with a successful answer, so an operation that answers a failure or
  stops with a fault reports none;
* a denial is reported, naming the target, exactly when the ownership check denied the caller a
  live target that the operation loaded (`Denial`).

One lemma per operation proves this from any world (`logs_renameUser` and its kin). The parts of
an operation that read, check or ask the identity provider report nothing and keep the store
(`Act.Quiet`), so seeding the administrator is checked piece by piece. Each step of a scenario
that drives the service (`Step.service`) then logs its reply the same way (`logged_runStep`),
and over a whole run of such steps the write counters grow by the number of events of each kind
that the steps reported (`audit_trail_matches_writes`).
-/

namespace UserDirectory.Account

open Act

/-! ## Counters and the events that stand for them -/

/-- The write counters of the store. -/
inductive Counter where
  | adds
  | updates
  | softDeletes
  deriving DecidableEq, Repr

/-- The value of a write counter. -/
def Store.counter (s : Store) : Counter → Nat
  | .adds => s.adds
  | .updates => s.updates
  | .softDeletes => s.softDeletes

/-- The write counter that an event stands for: creations and seeded administrators are
additions, updates and deletions count as such, and no failure stands for a write. -/
def EventName.counter? : EventName → Option Counter
  | .created => some .adds
  | .adminSeeded => some .adds
  | .updated => some .updates
  | .deleted => some .softDeletes
  | _ => none

/-- The number of events that stand for writes counted by `k`. -/
def tally (k : Counter) (es : List Event) : Nat :=
  es.countP (·.name.counter? == some k)

theorem tally_append (k : Counter) (es es' : List Event) :
    tally k (es ++ es') = tally k es + tally k es' :=
  List.countP_append

theorem EventName.ne_accessDenied {n : EventName} {k : Counter} (h : n.counter? = some k) :
    n ≠ .accessDenied := by
  rintro rfl
  cases h

theorem Store.Keeps.counter {s s' : Store} (h : s.Keeps s') (k : Counter) :
    s'.counter k = s.counter k := by
  cases k
  · exact h.adds
  · exact h.updates
  · exact h.softDeletes

/-! ## Denials -/

/-- The ownership check denied the caller the profile `found` that an operation loaded: no read
failure was armed, a caller is given, `found` is a live profile with the id `id`, and the caller
may not act on it (the check allows exactly `MayAct`, by `exec_authorizeCaller`). -/
def Denial (s : Store) (caller : Option Caller) (found : Option Profile) (id : String) : Prop :=
  s.readFailure = none ∧
    ∃ c p, caller = some c ∧ found = some p ∧ p.deleted = false ∧ p.id = id ∧ ¬ MayAct s c id

/-- The ids that a read, rename or deletion of the id `t` is denied: the live profile stored with
the id that `t` is accepted as. -/
def Store.deniesById (s : Store) (t : Given) (caller : Option Caller) (id : String) : Prop :=
  ∃ target, parseUserId t = .ok target ∧
    Denial s caller ((s.find? target).filter (·.visible false)) id

/-- The ids that a read by the email `e` is denied: the live profile a read by the accepted email
finds. -/
def Store.deniesByEmail [V : Mail.AddressValidator] (s : Store) (e : Given)
    (caller : Option Caller) (id : String) : Prop :=
  ∃ n, normalizeEmailField e = .ok n ∧ Denial s caller (emailTarget s n) id

variable {s : Store} {t : Given} {caller : Option Caller} {id : String}

theorem deniesById_of_error {e : FieldError} (ht : parseUserId t = .error e) :
    ¬ s.deniesById t caller id := by
  rintro ⟨target, ht', -⟩
  rw [ht] at ht'
  cases ht'

theorem not_denial_of_armed {found : Option Profile} {m : Text} (hr : s.readFailure = some m) :
    ¬ Denial s caller found id := by
  rintro ⟨hnone, -⟩
  rw [hr] at hnone
  cases hnone

theorem deniesById_iff {target : String} (ht : parseUserId t = .ok target) :
    s.deniesById t caller id ↔ Denial s caller ((s.find? target).filter (·.visible false)) id := by
  refine ⟨fun ⟨target', ht', hd⟩ => ?_, fun hd => ⟨target, ht, hd⟩⟩
  rw [ht] at ht'
  cases ht'
  exact hd

theorem deniesByEmail_iff [V : Mail.AddressValidator] {e : Given} {n : String}
    (hn : normalizeEmailField e = .ok n) :
    s.deniesByEmail e caller id ↔ Denial s caller (emailTarget s n) id := by
  refine ⟨fun ⟨n', hn', hd⟩ => ?_, fun hd => ⟨n, hn, hd⟩⟩
  rw [hn] at hn'
  cases hn'
  exact hd

/-! ## What an operation logged -/

/-- What an operation reported, from the store `s`: it answered `r`, left the store `s'` and
reported the events `es`. `ok` tells the answers that are successes, `denies` the ids of the live
targets that the ownership check denied the caller. -/
structure Logged {β : Type} (ok : β → Prop) (denies : String → Prop) (s : Store)
    (r : Except Fault β) (s' : Store) (es : List Event) : Prop where
  atMostOne : es.length ≤ 1
  counters : ∀ k, s'.counter k = s.counter k + tally k es
  named : ∀ e ∈ es, e.outcome = .success →
    ∃ p, e.subject = some p.id ∧ s'.profiles = Store.put s.profiles p
  unreported : (∀ e ∈ es, e.outcome = .failure) → s'.profiles = s.profiles
  answered : ∀ e ∈ es, e.outcome = .success → ∃ b, r = .ok b ∧ ok b
  denied : ∀ id, (∃ e ∈ es, e.name = .accessDenied ∧ e.subject = some id) ↔ denies id

namespace Logged

variable {β γ : Type} {ok : β → Prop} {denies : String → Prop} {s s' : Store}
  {r : Except Fault β}

theorem quiet (hp : s'.profiles = s.profiles) (hc : ∀ k, s'.counter k = s.counter k)
    (hd : ∀ id, ¬ denies id) : Logged ok denies s r s' [] where
  atMostOne := by simp
  counters k := by rw [hc k]; rfl
  named := by simp
  unreported _ := hp
  answered := by simp
  denied id := iff_of_false (by simp) (hd id)

theorem failed (e : Event) (hp : s'.profiles = s.profiles) (hc : ∀ k, s'.counter k = s.counter k)
    (he : e.outcome = .failure) (hk : e.name.counter? = none) (hn : e.name ≠ .accessDenied)
    (hd : ∀ id, ¬ denies id) : Logged ok denies s r s' [e] where
  atMostOne := by simp
  counters k := by simp [hc k, tally, hk]
  named e' he' hs := by
    rw [List.mem_singleton.mp he', he] at hs
    cases hs
  unreported _ := hp
  answered e' he' hs := by
    rw [List.mem_singleton.mp he', he] at hs
    cases hs
  denied id := iff_of_false (by simp [hn]) (hd id)

theorem denial (id action : String) (hp : s'.profiles = s.profiles)
    (hc : ∀ k, s'.counter k = s.counter k) (hd : ∀ id', denies id' ↔ id' = id) :
    Logged ok denies s r s' [.mk' .accessDenied (some id) .failure [("action", action)]] where
  atMostOne := by simp
  counters k := by simp [hc k, tally, Event.mk', EventName.counter?]
  named := by simp [Event.mk']
  unreported _ := hp
  answered := by simp [Event.mk']
  denied id' := by
    rw [hd]
    simp [Event.mk', eq_comm]

theorem wrote (b : β) (e : Event) (p : Profile) (k : Counter) (hb : ok b)
    (he : e.outcome = .success) (hsub : e.subject = some p.id) (hk : e.name.counter? = some k)
    (hp : s'.profiles = Store.put s.profiles p)
    (hc : ∀ k', s'.counter k' = s.counter k' + if k' = k then 1 else 0)
    (hd : ∀ id, ¬ denies id) : Logged ok denies s (.ok b) s' [e] where
  atMostOne := by simp
  counters k' := by
    rw [hc k']
    by_cases h : k' = k
    · subst h
      simp [tally, hk]
    · simp [tally, hk, h, Ne.symm h]
  named e' he' _ := by
    rw [List.mem_singleton.mp he']
    exact ⟨p, hsub, hp⟩
  unreported h := absurd (h e (List.mem_singleton_self e)) (by rw [he]; nofun)
  answered _ _ _ := ⟨b, rfl, hb⟩
  denied id := iff_of_false (by simp [EventName.ne_accessDenied hk]) (hd id)

theorem map {ok' : γ → Prop} {es : List Event} (f : β → γ) (hf : ∀ b, ok b → ok' (f b))
    (h : Logged ok denies s r s' es) : Logged ok' denies s (f <$> r) s' es where
  atMostOne := h.atMostOne
  counters := h.counters
  named := h.named
  unreported := h.unreported
  answered e he hs := by
    obtain ⟨b, rfl, hb⟩ := h.answered e he hs
    exact ⟨f b, rfl, hf b hb⟩
  denied := h.denied

theorem keeps_left {s₀ : Store} {es : List Event} (hk : s₀.Keeps s)
    (h : Logged ok denies s r s' es) : Logged ok denies s₀ r s' es where
  atMostOne := h.atMostOne
  counters k := by rw [h.counters k, hk.counter k]
  named e he hs := by
    rw [← hk.profiles]
    exact h.named e he hs
  unreported hf := (h.unreported hf).trans hk.profiles
  answered := h.answered
  denied := h.denied

theorem congr {denies' : String → Prop} {es : List Event} (hd : ∀ id, denies id ↔ denies' id)
    (h : Logged ok denies s r s' es) : Logged ok denies' s r s' es where
  atMostOne := h.atMostOne
  counters := h.counters
  named := h.named
  unreported := h.unreported
  answered := h.answered
  denied id := (h.denied id).trans (hd id)

end Logged

/-- The run of `x` from `w` appends to the world's events the events it logged. -/
def Act.Logs {β : Type} (ok : β → Prop) (denies : String → Prop) (x : Act β) (w : World) :
    Prop :=
  ∃ es, (x.exec w).2.events = w.events ++ es ∧
    Logged ok denies w.store (x.exec w).1 (x.exec w).2.store es

namespace Act.Logs

variable {β : Type} {ok : β → Prop} {denies : String → Prop} {x : Act β} {w w' : World}
  {r : Except Fault β}

theorem intro {es : List Event} (h : x.exec w = (r, w')) (hev : w'.events = w.events ++ es)
    (hl : Logged ok denies w.store r w'.store es) : Logs ok denies x w :=
  ⟨es, by rw [h]; exact hev, by rw [h]; exact hl⟩

theorem of_quiet (h : x.exec w = (r, w')) (hev : w'.events = w.events) (hk : w.store.Keeps w'.store)
    (hd : ∀ id, ¬ denies id) : Logs ok denies x w :=
  .intro h (by rw [hev, List.append_nil]) (.quiet hk.profiles hk.counter hd)

theorem of_denied {p : Profile} {action : String} (h : x.exec w = (r, w.denied p action))
    (hd : ∀ id, denies id ↔ id = p.id) : Logs ok denies x w :=
  .intro h rfl (.denial p.id action rfl (fun _ => rfl) hd)

theorem of_failed {e : Event} (h : x.exec w = (r, w')) (hev : w'.events = w.events ++ [e])
    (hk : w.store.Keeps w'.store) (he : e.outcome = .failure) (hkc : e.name.counter? = none)
    (hn : e.name ≠ .accessDenied) (hd : ∀ id, ¬ denies id) : Logs ok denies x w :=
  .intro h hev (.failed e hk.profiles hk.counter he hkc hn hd)

end Act.Logs

/-! ## Quiet operations -/

/-- Every run of `x` reports no event and keeps the store. -/
def Act.Quiet {α : Type} (x : Act α) : Prop :=
  ∀ w, (x.exec w).2.events = w.events ∧ w.store.Keeps (x.exec w).2.store

section Quiet

variable {α β : Type} {x : Act α}

theorem quiet_pure (a : α) : Quiet (pure a : Act α) := fun _ => ⟨rfl, .refl _⟩

theorem quiet_throw (e : Fault) : Quiet (throw e : Act α) := fun _ => ⟨rfl, .refl _⟩

theorem quiet_bind {f : α → Act β} (hx : Quiet x) (hf : ∀ a, Quiet (f a)) : Quiet (x >>= f) := by
  intro w
  have h := hx w
  rw [exec_bind]
  rcases hxw : x.exec w with ⟨_ | a, w'⟩ <;> rw [hxw] at h
  · exact h
  · exact ⟨(hf a w').1.trans h.1, h.2.trans (hf a w').2⟩

theorem quiet_map (g : α → β) (hx : Quiet x) : Quiet (g <$> x) := by
  intro w
  have h := hx w
  rw [exec_map]
  rcases hxw : x.exec w with ⟨_ | a, w'⟩ <;> rw [hxw] at h <;> exact h

theorem quiet_attempt (hx : Quiet x) : Quiet (attempt x) := by
  intro w
  have h := hx w
  rw [exec_attempt]
  rcases hxw : x.exec w with ⟨_ | a, w'⟩ <;> rw [hxw] at h <;> exact h

theorem quiet_get_bind {f : World → Act β}
    (h : ∀ w, ((f w).exec w).2.events = w.events ∧ w.store.Keeps ((f w).exec w).2.store) :
    Quiet (get >>= f) := by
  intro w
  rw [exec_bind, exec_get]
  exact h w

theorem quiet_liftStore {g : Store → StoreStep α} (h : ∀ s : Store, s.Keeps (g s).2) :
    Quiet (liftStore g) := by
  intro w
  have hg := h w.store
  rw [exec_liftStore]
  rcases hgw : g w.store with ⟨_ | a, s'⟩ <;> rw [hgw] at hg <;> exact ⟨rfl, hg⟩

theorem quiet_modify {g : World → World} (hev : ∀ w, (g w).events = w.events)
    (hs : ∀ w, (g w).store = w.store) : Quiet (modify g) := fun w => by
  rw [exec_modify, hev w, hs w]
  exact ⟨rfl, .refl _⟩

theorem quiet_requireField (r : Except FieldError α) : Quiet (requireField r) := by
  cases r with
  | ok a => exact quiet_pure a
  | error e => exact quiet_throw _

theorem quiet_requireUse (r : Except Misuse α) : Quiet (requireUse r) := by
  cases r with
  | ok a => exact quiet_pure a
  | error e => exact quiet_throw _

end Quiet

theorem quiet_freshId : Quiet freshId := fun w => by
  rw [freshId_world]
  exact ⟨rfl, .refl _⟩

theorem quiet_createProfile [V : Mail.AddressValidator] (email displayName ext : Given)
    (role : Role) :
    Quiet (createProfile email displayName ext role) := fun w => by
  rw [createProfile_world]
  exact ⟨rfl, .refl _⟩

theorem quiet_ensureAdmin (email password displayName : Given) :
    Quiet (ensureAdmin email password displayName) := by
  refine quiet_bind (quiet_modify (fun _ => rfl) fun _ => rfl) fun _ => quiet_get_bind fun w => ?_
  split
  · exact ⟨rfl, .refl _⟩
  · -- from here on the provider and the identifiers change, nothing else
    dsimp only
    split
    · refine quiet_bind (quiet_pure _) (fun key => ?_) w
      split
      · exact quiet_bind (quiet_pure _) fun _ =>
          quiet_bind (quiet_modify (fun _ => rfl) fun _ => rfl) fun _ => quiet_pure _
      · exact quiet_bind quiet_freshId fun _ =>
          quiet_bind (quiet_modify (fun _ => rfl) fun _ => rfl) fun _ =>
            quiet_bind (quiet_pure _) fun _ =>
              quiet_bind (quiet_modify (fun _ => rfl) fun _ => rfl) fun _ => quiet_pure _
    · exact ⟨rfl, .refl _⟩

theorem quiet_advanceClock (span : Seconds) : Quiet (advanceClock span) := by
  refine quiet_get_bind fun w => ?_
  split
  · exact ⟨rfl, .refl _⟩
  · exact ⟨rfl, .refl _⟩

theorem quiet_resolve (ext : Given) : Quiet (resolve ext) := by
  unfold resolve
  split
  · split
    · exact quiet_pure _
    · exact quiet_throw _
  · refine quiet_bind (quiet_liftStore (Store.keeps_reading _)) fun found => ?_
    split
    · exact quiet_pure _
    · exact quiet_pure _

theorem quiet_currentUser (caller : Option Caller) : Quiet (currentUser caller) := by
  unfold currentUser
  split
  · exact quiet_pure _
  · refine quiet_bind (quiet_attempt (quiet_resolve _)) fun r => ?_
    split
    · exact quiet_pure _
    · exact quiet_pure _

theorem quiet_listUsers (r : ListRequest) : Quiet (listUsers r) := by
  refine quiet_bind (quiet_requireUse _) fun below => ?_
  split
  · exact quiet_pure _
  · refine quiet_bind (quiet_requireUse _) fun below' => ?_
    split
    · exact quiet_pure _
    · refine quiet_bind (quiet_requireUse _) fun search =>
        quiet_bind (quiet_attempt (quiet_liftStore (Store.keeps_reading _))) fun page => ?_
      split
      · exact quiet_pure _
      · split
        · exact quiet_pure _
        · exact quiet_pure _

namespace Act.Logs

variable {β γ : Type} {ok : β → Prop} {denies : String → Prop} {x : Act β} {w : World}

theorem map {ok' : γ → Prop} (f : β → γ) (hf : ∀ b, ok b → ok' (f b)) (h : Logs ok denies x w) :
    Logs ok' denies (f <$> x) w := by
  obtain ⟨es, hev, hl⟩ := h
  have hl' := hl.map f hf
  refine ⟨es, ?_, ?_⟩
  · rw [exec_map]
    rcases hx : x.exec w with ⟨_ | b, w'⟩ <;> rw [hx] at hev <;> exact hev
  · rw [exec_map]
    rcases hx : x.exec w with ⟨_ | b, w'⟩ <;> rw [hx] at hl' <;> exact hl'

theorem congr {denies' : String → Prop} (hd : ∀ id, denies id ↔ denies' id)
    (h : Logs ok denies x w) : Logs ok denies' x w :=
  let ⟨es, hev, hl⟩ := h
  ⟨es, hev, hl.congr hd⟩

end Act.Logs

theorem Act.Quiet.logs {β : Type} {ok : β → Prop} {denies : String → Prop} {x : Act β}
    (hx : Quiet x) (hd : ∀ id, ¬ denies id) (w : World) : Logs ok denies x w :=
  .of_quiet rfl (hx w).1 (hx w).2 hd

theorem logs_bind_of_quiet {α β : Type} {ok : β → Prop} {x : Act α} {f : α → Act β}
    (hx : Quiet x) (hf : ∀ a w, Logs ok (fun _ => False) (f a) w) (w : World) :
    Logs ok (fun _ => False) (x >>= f) w := by
  have h := hx w
  unfold Logs
  rw [exec_bind]
  rcases hxw : x.exec w with ⟨_ | a, w'⟩ <;> rw [hxw] at h
  · exact ⟨[], by rw [h.1, List.append_nil], .quiet h.2.profiles h.2.counter nofun⟩
  · obtain ⟨es, hev, hl⟩ := hf a w'
    exact ⟨es, by rw [hev, h.1], hl.keeps_left h.2⟩


/-! ## Loading a target for a caller -/

variable {w : World}

theorem exec_loadFor_match (id action : String) (caller : Option Caller)
    (hr : w.store.readFailure = none) :
    (loadFor id caller action).exec w =
      (match (w.store.find? id).filter (·.visible false) with
        | none => pure (.error .notFound)
        | some p => permit p caller action : Act (Outcome Profile)).exec w := by
  rw [exec_loadFor id action caller hr]
  cases (w.store.find? id).filter (·.visible false) <;> rfl

theorem exec_permitFound {x : Act (Outcome Profile)} (found : Option Profile) (action : String)
    (hx : x = match found with
      | none => pure (.error .notFound)
      | some p => permit p caller action)
    (hlive : ∀ p, found = some p → p.deleted = false) (hr : w.store.readFailure = none) :
    (∃ p, found = some p ∧ x.exec w = (.ok (.ok p), w) ∧ ∀ id, ¬ Denial w.store caller found id) ∨
      (x.exec w = (.ok (.error .notFound), w) ∧ ∀ id, ¬ Denial w.store caller found id) ∨
      ∃ p, x.exec w = (.ok (.error .notFound), w.denied p action) ∧
        ∀ id, Denial w.store caller found id ↔ id = p.id := by
  subst hx
  cases found with
  | none =>
    refine .inr (.inl ⟨rfl, ?_⟩)
    rintro id ⟨-, c, p, -, hf, -⟩
    cases hf
  | some p =>
    cases caller with
    | none =>
      refine .inl ⟨p, rfl, exec_permit_none p action, ?_⟩
      rintro id ⟨-, c, q, hc, -⟩
      cases hc
    | some c =>
      rcases exec_permit (c := c) p action hr with ⟨hm, he⟩ | ⟨hm, he⟩
      · refine .inl ⟨p, rfl, he, ?_⟩
        rintro id ⟨-, c', q, hc, hq, -, hid, hno⟩
        cases hc
        cases hq
        exact hno (hid ▸ hm)
      · refine .inr (.inr ⟨p, he, fun id => ⟨?_, ?_⟩⟩)
        · rintro ⟨-, c', q, -, hq, -, hid, -⟩
          cases hq
          exact hid.symm
        · rintro rfl
          exact ⟨hr, c, p, rfl, rfl, hlive p rfl, rfl, hm⟩

theorem filter_visible_live {o : Option Profile} :
    ∀ p, o.filter (·.visible false) = some p → p.deleted = false :=
  fun _ h => (filter_visible_eq_some.mp h).2

/-! ## The operations -/

theorem logs_userById (t : Given) (caller : Option Caller) (w : World) :
    Logs (·.isOk) (w.store.deniesById t caller) (userById t caller) w := by
  cases ht : parseUserId t with
  | error e =>
    exact .of_quiet (by rw [userById_refused ht]; rfl) rfl (.refl _)
      fun _ => deniesById_of_error ht
  | ok target =>
    cases hr : w.store.readFailure with
    | some m =>
      have hx : (userById t caller).exec w =
          (.ok (.error .infrastructure), { w with store := { w.store with readFailure := none } }) := by
        unfold userById
        rw [ht, checkField_ok]
        simp [exec_loadFor_armed caller "read" hr]
      exact .of_quiet hx rfl (.disarmRead _) fun _ ⟨_, _, hd⟩ => not_denial_of_armed hr hd
    | none =>
      have hload := (exec_userById ht caller hr).trans (exec_loadFor_match target "read" caller hr)
      rcases exec_permitFound _ "read" rfl filter_visible_live hr with
        ⟨p, -, he, hd⟩ | ⟨he, hd⟩ | ⟨p, he, hd⟩
      · exact .of_quiet (hload.trans he) rfl (.refl _) fun id h => hd id ((deniesById_iff ht).mp h)
      · exact .of_quiet (hload.trans he) rfl (.refl _) fun id h => hd id ((deniesById_iff ht).mp h)
      · exact .of_denied (hload.trans he) fun id => (deniesById_iff ht).trans (hd id)


theorem logs_userByEmail [V : Mail.AddressValidator] (e : Given) (caller : Option Caller)
    (w : World) :
    Logs (·.isOk) (w.store.deniesByEmail e caller) (userByEmail e caller) w := by
  cases hn : normalizeEmailField e with
  | error f =>
    obtain ⟨r, hx⟩ : ∃ r, (userByEmail e caller).exec w = (r, w) := by
      rw [userByEmail_refused hn]
      split
      · exact ⟨_, rfl⟩
      · exact ⟨_, rfl⟩
    refine .of_quiet hx rfl (.refl _) ?_
    rintro id ⟨n, hn', -⟩
    rw [hn] at hn'
    cases hn'
  | ok n =>
    cases hr : w.store.readFailure with
    | some m =>
      exact .of_quiet (exec_userByEmail_armed hn caller hr) rfl (.disarmRead _)
        fun id h => not_denial_of_armed hr ((deniesByEmail_iff hn).mp h)
    | none =>
      have hload := exec_userByEmail hn caller hr
      rcases exec_permitFound _ "read" rfl (fun p h => (emailTarget_spec h).2.1) hr with
        ⟨p, -, he, hd⟩ | ⟨he, hd⟩ | ⟨p, he, hd⟩
      · exact .of_quiet (hload.trans he) rfl (.refl _)
          fun id h => hd id ((deniesByEmail_iff hn).mp h)
      · exact .of_quiet (hload.trans he) rfl (.refl _)
          fun id h => hd id ((deniesByEmail_iff hn).mp h)
      · exact .of_denied (hload.trans he) fun id => (deniesByEmail_iff hn).trans (hd id)

theorem logs_deleteUser (t : Given) (caller : Option Caller) (w : World) :
    Logs (·.isOk) (w.store.deniesById t caller) (deleteUser t caller) w := by
  cases ht : parseUserId t with
  | error e =>
    exact .of_quiet (by rw [deleteUser_refused ht]; rfl) rfl (.refl _)
      fun _ => deniesById_of_error ht
  | ok target =>
    have hx := exec_deleteUser_accepted ht caller w
    cases hr : w.store.readFailure with
    | some m =>
      rw [exec_loadFor_armed caller "delete" hr] at hx
      exact .of_failed hx rfl (.disarmRead _) rfl rfl nofun
        fun _ ⟨_, _, hd⟩ => not_denial_of_armed hr hd
    | none =>
      rw [exec_loadFor_match target "delete" caller hr] at hx
      rcases exec_permitFound _ "delete" rfl filter_visible_live hr with
        ⟨p, hfound, he, hd⟩ | ⟨he, hd⟩ | ⟨p, he, hd⟩ <;> rw [he] at hx
      · obtain ⟨hp, hl⟩ := filter_visible_eq_some.mp hfound
        dsimp only at hx
        cases hw : w.store.writeFailure with
        | some m =>
          rw [Store.softDelete_armed _ _ hw] at hx
          exact .of_failed hx rfl (.disarmWrite _) rfl rfl nofun
            fun id h => hd id ((deniesById_iff ht).mp h)
        | none =>
          rw [Store.softDelete_live w.clock hw hp hl] at hx
          exact .intro hx rfl (.wrote _ _ _ .softDeletes rfl rfl rfl rfl rfl
            (fun k => by cases k <;> rfl) fun id h => hd id ((deniesById_iff ht).mp h))
      · exact .of_quiet hx rfl (.refl _) fun id h => hd id ((deniesById_iff ht).mp h)
      · exact .of_denied hx fun id => (deniesById_iff ht).trans (hd id)

theorem logs_renameUser (t n : Given) (caller : Option Caller) (w : World) :
    Logs (·.isOk)
      (fun id => (∃ name, normalizeDisplayName n = .ok name) ∧ w.store.deniesById t caller id)
      (renameUser t n caller) w := by
  cases ht : parseUserId t with
  | error e =>
    exact .of_quiet (by rw [renameUser_refused ht]; rfl) rfl (.refl _)
      fun _ h => deniesById_of_error ht h.2
  | ok target =>
    obtain ⟨e, hn⟩ | ⟨name, hn⟩ : (∃ e, normalizeDisplayName n = .error e) ∨
        ∃ name, normalizeDisplayName n = .ok name := by
      cases normalizeDisplayName n with
      | error e => exact .inl ⟨e, rfl⟩
      | ok name => exact .inr ⟨name, rfl⟩
    · obtain ⟨r, hx⟩ : ∃ r, (renameUser t n caller).exec w = (r, w) := by
        rw [renameUser_name_error ht hn]
        split
        · exact ⟨_, rfl⟩
        · exact ⟨_, rfl⟩
      refine .of_quiet hx rfl (.refl _) ?_
      rintro id ⟨⟨name, hname⟩, -⟩
      rw [hn] at hname
      cases hname
    · have hiff : ∀ id, ((∃ name, normalizeDisplayName n = .ok name) ∧
          w.store.deniesById t caller id) ↔
          Denial w.store caller ((w.store.find? target).filter (·.visible false)) id :=
        fun id => ⟨fun h => (deniesById_iff ht).mp h.2, fun h => ⟨⟨name, hn⟩, (deniesById_iff ht).mpr h⟩⟩
      have hx := exec_renameUser_accepted ht hn caller w
      cases hr : w.store.readFailure with
      | some m =>
        rw [exec_loadFor_armed caller "rename" hr] at hx
        exact .of_failed hx rfl (.disarmRead _) rfl rfl nofun
          fun id h => not_denial_of_armed hr ((hiff id).mp h)
      | none =>
        rw [exec_loadFor_match target "rename" caller hr] at hx
        rcases exec_permitFound _ "rename" rfl filter_visible_live hr with
          ⟨p, hfound, he, hd⟩ | ⟨he, hd⟩ | ⟨p, he, hd⟩ <;> rw [he] at hx
        · obtain ⟨hp, hl⟩ := filter_visible_eq_some.mp hfound
          dsimp only at hx
          cases hw : w.store.writeFailure with
          | some m =>
            rw [Store.update_armed _ hw] at hx
            exact .of_failed hx rfl (.disarmWrite _) rfl rfl nofun fun id h => hd id ((hiff id).mp h)
          | none =>
            have hf : w.store.find? (p.rename name w.clock).id = some p := by
              rw [Profile.rename_id, Store.find?_id hp]
              exact hp
            rw [Store.update_live hw hf hl] at hx
            exact .intro hx rfl (.wrote _ _ (p.rename name w.clock) .updates rfl rfl
              (by rw [Profile.rename_id]; rfl) rfl rfl (fun k => by cases k <;> rfl)
              fun id h => hd id ((hiff id).mp h))
        · exact .of_quiet hx rfl (.refl _) fun id h => hd id ((hiff id).mp h)
        · exact .of_denied hx fun id => (hiff id).trans (hd id)

theorem logs_createUser [V : Mail.AddressValidator] (e n x : Given) (w : World) :
    Logs (·.isOk) (fun _ => False) (createUser e n x) w := by
  refine logs_bind_of_quiet (quiet_attempt (quiet_createProfile e n x .user)) (fun made w => ?_) w
  split
  · exact (quiet_pure _).logs nofun w
  · exact (quiet_throw _).logs nofun w
  · rename_i record
    unfold Logs
    cases hw : w.store.writeFailure with
    | some m =>
      simp only [exec_bind, exec_attempt, exec_liftStore, Store.add_armed _ hw]
      exact ⟨[_], rfl, .failed _ rfl (fun _ => rfl) rfl rfl nofun nofun⟩
    | none =>
      cases hcl : Store.clashOf w.store.profiles record with
      | some field =>
        simp only [exec_bind, exec_attempt, exec_liftStore, Store.add_clash hw hcl]
        exact ⟨[_], rfl, .failed _ rfl (fun _ => rfl) rfl rfl nofun nofun⟩
      | none =>
        simp only [exec_bind, exec_attempt, exec_liftStore, Store.add_fresh hw hcl, exec_notify,
          exec_pure]
        exact ⟨[_], rfl, .wrote _ _ record .adds rfl rfl rfl rfl rfl (fun k => by cases k <;> rfl)
          nofun⟩

theorem logs_seedAdmin [V : Mail.AddressValidator] (c : SeedConfig) (w : World) :
    Logs (fun _ => True) (fun _ => False) (seedAdmin c) w := by
  unfold seedAdmin
  split
  · exact (quiet_pure _).logs nofun w
  refine logs_bind_of_quiet (quiet_requireUse _) (fun complete w => ?_) w
  split
  · exact (quiet_pure _).logs nofun w
  refine logs_bind_of_quiet (quiet_requireField _) (fun email w => ?_) w
  refine logs_bind_of_quiet (quiet_requireField _) (fun name w => ?_) w
  refine logs_bind_of_quiet (quiet_liftStore (Store.keeps_reading _)) (fun found w => ?_) w
  split
  · exact (quiet_bind (quiet_ensureAdmin _ _ _) fun _ => quiet_pure _).logs nofun w
  refine logs_bind_of_quiet (quiet_ensureAdmin _ _ _) (fun ext w => ?_) w
  refine logs_bind_of_quiet (quiet_createProfile _ _ _ _) (fun admin w => ?_) w
  unfold Logs
  cases hw : w.store.writeFailure with
  | some m =>
    simp only [exec_bind, exec_liftStore, Store.add_armed _ hw]
    exact ⟨[], (List.append_nil _).symm, .quiet rfl (fun _ => rfl) nofun⟩
  | none =>
    cases hcl : Store.clashOf w.store.profiles admin with
    | some field =>
      simp only [exec_bind, exec_liftStore, Store.add_clash hw hcl]
      exact ⟨[], (List.append_nil _).symm, .quiet rfl (fun _ => rfl) nofun⟩
    | none =>
      simp only [exec_bind, exec_liftStore, Store.add_fresh hw hcl, exec_notify, exec_pure]
      exact ⟨[_], rfl, .wrote _ _ admin .adds trivial rfl rfl rfl rfl (fun k => by cases k <;> rfl)
        nofun⟩

end UserDirectory.Account

namespace UserDirectory.Session

open UserDirectory.Account Act

/-! ## Steps of the service -/

/-- The steps of a run of the directory's service: its operations and the seeding of the
administrator, with failures armed and the clock moved between them. -/
def Step.service : Step → Bool
  | .advance _ => true
  | .failNextRead _ => true
  | .failNextWrite _ => true
  | .failNextProvider _ => true
  | .createUser .. => true
  | .currentUser _ => true
  | .userById .. => true
  | .userByEmail .. => true
  | .renameUser .. => true
  | .deleteUser .. => true
  | .listUsers .. => true
  | .bootstrap _ => true
  | _ => false

/-- Whether a reply is a failure of the directory. -/
def Reply.failed : Reply → Bool
  | .outcome o => !o.isOk
  | .page o => !o.isOk
  | _ => false

theorem Reply.failed_outcome {o : Outcome Profile} (h : o.isOk = true) :
    (Reply.outcome o).failed = false := by
  simp [Reply.failed, h]

/-- The ids of the live targets that the ownership check of a step's operation denies the caller
the step names. -/
def Step.Denies [V : Mail.AddressValidator] (st : Step) (w : World) (id : String) : Prop :=
  match st with
  | .userById t c =>
    ∃ caller, ((callerOf? c).exec w).1 = .ok caller ∧ w.store.deniesById t caller id
  | .userByEmail e c =>
    ∃ caller, ((callerOf? c).exec w).1 = .ok caller ∧ w.store.deniesByEmail e caller id
  | .renameUser t n c =>
    ∃ caller, ((callerOf? c).exec w).1 = .ok caller ∧
      (∃ name, normalizeDisplayName n = .ok name) ∧ w.store.deniesById t caller id
  | .deleteUser t c =>
    ∃ caller, ((callerOf? c).exec w).1 = .ok caller ∧ w.store.deniesById t caller id
  | _ => False

theorem callerOf_fst (spec : CallerSpec) (w w' : World) :
    ((callerOf spec).exec w).1 = ((callerOf spec).exec w').1 := by
  unfold callerOf
  split
  · rfl
  · split <;> rfl

theorem callerOf?_fst (c : Option CallerSpec) (w w' : World) :
    ((callerOf? c).exec w).1 = ((callerOf? c).exec w').1 := by
  cases c with
  | none => rfl
  | some spec => rw [callerOf?, exec_map_fst, exec_map_fst, callerOf_fst spec w w']

theorem Step.denies_events [V : Mail.AddressValidator] (st : Step) (w : World) (es : List Event)
    (id : String) :
    st.Denies { w with events := es } id ↔ st.Denies w id := by
  cases st <;> first
    | rfl
    | simp only [Step.Denies, callerOf?_fst _ { w with events := es } w]

theorem quiet_callerOf? (c : Option CallerSpec) : Quiet (callerOf? c) := fun w => by
  rw [callerOf?_world]
  exact ⟨rfl, .refl _⟩

theorem logs_callerThen {D : Option Caller → String → Prop}
    {k : Option Caller → Act (Outcome Profile)} (c : Option CallerSpec) (w : World)
    (hk : ∀ caller, Logs (·.isOk) (D caller) (k caller) w) :
    Logs (fun r : Reply => r.failed = false)
      (fun id => ∃ caller, ((callerOf? c).exec w).1 = .ok caller ∧ D caller id)
      (do return .outcome (← k (← callerOf? c))) w := by
  have hw := callerOf?_world c w
  rcases hc : (callerOf? c).exec w with ⟨_ | caller, w'⟩ <;> rw [hc] at hw <;> dsimp only at hw <;>
    rw [hw] at hc
  · refine .of_quiet (by rw [exec_bind, hc]) rfl (.refl _) ?_
    rintro id ⟨caller, hcaller, -⟩
    cases hcaller
  · have hl : Logs (fun r : Reply => r.failed = false) (D caller) (Reply.outcome <$> k caller) w :=
      (hk caller).map Reply.outcome fun _ => Reply.failed_outcome
    have hexec : (do return Reply.outcome (← k (← callerOf? c)) : Act Reply).exec w =
        (Reply.outcome <$> k caller).exec w := by
      simp only [exec_bind, hc, exec_map, exec_pure]
    obtain ⟨es, hev, hl⟩ := hl
    refine ⟨es, by rw [hexec]; exact hev, ?_⟩
    rw [hexec]
    refine hl.congr fun id => ⟨fun h => ⟨caller, rfl, h⟩, ?_⟩
    rintro ⟨caller', hcaller, h⟩
    cases hcaller
    exact h

theorem logs_runStep [V : Mail.AddressValidator] (st : Step) (hst : st.service = true) (w : World) :
    Logs (fun r : Reply => r.failed = false) (st.Denies w) (runStep st) w := by
  cases st with
  | advance span =>
    exact (quiet_bind (quiet_advanceClock span) fun _ => quiet_pure _).logs nofun w
  | failNextRead m => exact .intro rfl (List.append_nil _).symm (.quiet rfl (fun _ => rfl) nofun)
  | failNextWrite m => exact .intro rfl (List.append_nil _).symm (.quiet rfl (fun _ => rfl) nofun)
  | failNextProvider m =>
    exact (quiet_bind (quiet_modify (fun _ => rfl) fun _ => rfl) fun _ => quiet_pure _).logs
      nofun w
  | createUser e n x =>
    exact ((logs_createUser e n x w).map Reply.outcome fun _ => Reply.failed_outcome).congr
      fun _ => Iff.rfl
  | currentUser c =>
    exact (quiet_bind (quiet_callerOf? c) fun caller =>
      quiet_bind (quiet_currentUser caller) fun _ => quiet_pure _).logs nofun w
  | userById t c => exact logs_callerThen c w fun caller => logs_userById t caller w
  | userByEmail e c => exact logs_callerThen c w fun caller => logs_userByEmail e caller w
  | renameUser t n c => exact logs_callerThen c w fun caller => logs_renameUser t n caller w
  | deleteUser t c => exact logs_callerThen c w fun caller => logs_deleteUser t caller w
  | listUsers sortBy direction r =>
    refine Quiet.logs ?_ nofun w
    dsimp only [runStep]
    split
    · exact quiet_throw _
    · exact quiet_throw _
    · exact quiet_map _ (quiet_listUsers _)
  | bootstrap c => exact ((logs_seedAdmin c w).map Reply.state fun _ _ => rfl).congr fun _ => Iff.rfl
  | _ => cases hst

theorem logged_runStep [V : Mail.AddressValidator] (st : Step) (hst : st.service = true)
    (w : World) :
    Logged (fun r : Reply => r.failed = false) (st.Denies w) w.store
      ((runStep st).exec { w with events := [] }).1 ((runStep st).exec { w with events := [] }).2.store
      ((runStep st).exec { w with events := [] }).2.events := by
  obtain ⟨es, hev, hl⟩ := logs_runStep st hst { w with events := [] }
  have hes : ((runStep st).exec { w with events := [] }).2.events = es := hev
  rw [hes]
  exact hl.congr fun id => Step.denies_events st w [] id

/-! ## Runs -/

theorem reportStep_report [V : Mail.AddressValidator] (st : Step) (w : World) :
    ((reportStep st).run w).1 =
      ⟨((runStep st).exec { w with events := [] }).1,
        ((runStep st).exec { w with events := [] }).2.events,
        countsOf ((runStep st).exec { w with events := [] }).2⟩ := rfl

theorem reportStep_events [V : Mail.AddressValidator] (st : Step) (w : World) :
    ((reportStep st).run w).1.events = ((runStep st).exec { w with events := [] }).2.events := rfl

theorem reports_cons [V : Mail.AddressValidator] (st : Step) (rest : List Step) (w : World) :
    ((runSteps (st :: rest)).run w).1 =
      ((reportStep st).run w).1 ::
        ((runSteps rest).run ((runStep st).exec { w with events := [] }).2).1 := by
  rw [← reportStep_world]
  simp only [runSteps, List.mapM_cons, StateT.run_bind]
  rfl

theorem reports_getElem [V : Mail.AddressValidator] (pre : List Step) (st : Step)
    (post : List Step) (w : World) :
    ((runSteps (pre ++ st :: post)).run w).1[pre.length]? =
      some ((reportStep st).run (worldAfter pre w)).1 := by
  induction pre generalizing w with
  | nil => rw [List.nil_append, reports_cons]; rfl
  | cons s pre ih =>
    rw [List.cons_append, reports_cons, List.length_cons, List.getElem?_cons_succ, ih,
      worldAfter_cons]

theorem tally_adds (es : List Event) :
    tally .adds es = es.countP fun e => e.name == .created || e.name == .adminSeeded := by
  unfold tally
  congr 1
  funext e
  cases e.name <;> rfl

theorem tally_updates (es : List Event) : tally .updates es = es.countP (·.name == .updated) := by
  unfold tally
  congr 1
  funext e
  cases e.name <;> rfl

theorem tally_softDeletes (es : List Event) :
    tally .softDeletes es = es.countP (·.name == .deleted) := by
  unfold tally
  congr 1
  funext e
  cases e.name <;> rfl

theorem counter_worldAfter [V : Mail.AddressValidator] (steps : List Step)
    (hs : ∀ st ∈ steps, st.service = true)
    (w : World) (k : Counter) :
    (worldAfter steps w).store.counter k =
      w.store.counter k + tally k (((runSteps steps).run w).1.flatMap (·.events)) := by
  induction steps generalizing w with
  | nil => rfl
  | cons st rest ih =>
    have hl := logged_runStep st (hs st List.mem_cons_self) w
    rw [worldAfter_cons, reports_cons, List.flatMap_cons, tally_append,
      ih (fun s h => hs s (List.mem_cons_of_mem st h)), hl.counters k, reportStep_events]
    omega

/-- The audit trail matches the writes. Take any run of the directory's service (its operations
and the seeding of the administrator, with any callers, inputs, armed failures and moves of the
clock). Every step of it is reported with the events of that step alone, and logs its reply from
the world the run reached before it (`Logged`): it reports at most one event; each write counter
grows by the events that stand for it; a success event names the profile written, under its own
id, and comes only with a reply that is no failure; no profile is written without a success
event; and a denial is reported, naming the target, exactly when the ownership check denied the
caller a live target. Over the whole run the additions grow by the number of creations and seeded
administrators reported, the updates by the number of updates, and the soft deletions by the
number of deletions. -/
theorem audit_trail_matches_writes [V : Mail.AddressValidator] (steps : List Step)
    (hs : ∀ st ∈ steps, st.service = true)
    (w : World) :
    (∀ pre st post, steps = pre ++ st :: post →
      let w₀ := worldAfter pre w
      let run := (runStep st).exec { w₀ with events := [] }
      ((runSteps steps).run w).1[pre.length]? = some ⟨run.1, run.2.events, countsOf run.2⟩ ∧
        Logged (fun r : Reply => r.failed = false) (st.Denies w₀) w₀.store run.1 run.2.store
          run.2.events) ∧
    let events := ((runSteps steps).run w).1.flatMap (·.events)
    (worldAfter steps w).store.adds =
        w.store.adds + events.countP (fun e => e.name == .created || e.name == .adminSeeded) ∧
      (worldAfter steps w).store.updates = w.store.updates + events.countP (·.name == .updated) ∧
      (worldAfter steps w).store.softDeletes =
        w.store.softDeletes + events.countP (·.name == .deleted) := by
  refine ⟨fun pre st post h => ?_, ?_, ?_, ?_⟩
  · subst h
    exact ⟨reports_getElem pre st post w,
      logged_runStep st (hs st (List.mem_append_right pre List.mem_cons_self)) _⟩
  · rw [← tally_adds]
    exact counter_worldAfter steps hs w .adds
  · rw [← tally_updates]
    exact counter_worldAfter steps hs w .updates
  · rw [← tally_softDeletes]
    exact counter_worldAfter steps hs w .softDeletes

/-- A run that arms a write failure, creates a user, whose add fails and is reported, and seeds
the administrator. -/
theorem audit_trail_matches_writes_session :
    letI := emailValidator
    let steps : List Step :=
      [.failNextWrite (some (Text.ofString "disk full")),
        .createUser (.ofString "a@example.com") (.ofString "A") (.ofString "ext-a"),
        .bootstrap ⟨true, .ofString "admin@example.com", .ofString "secret", .ofString "Admin"⟩]
    let w : World := {}
    (∀ st ∈ steps, st.service = true) ∧
    (∀ pre st post, steps = pre ++ st :: post →
      let w₀ := worldAfter pre w
      let run := (runStep st).exec { w₀ with events := [] }
      ((runSteps steps).run w).1[pre.length]? = some ⟨run.1, run.2.events, countsOf run.2⟩ ∧
        Logged (fun r : Reply => r.failed = false) (st.Denies w₀) w₀.store run.1 run.2.store
          run.2.events) ∧
    let events := ((runSteps steps).run w).1.flatMap (·.events)
    (worldAfter steps w).store.adds =
        w.store.adds + events.countP (fun e => e.name == .created || e.name == .adminSeeded) ∧
      (worldAfter steps w).store.updates = w.store.updates + events.countP (·.name == .updated) ∧
      (worldAfter steps w).store.softDeletes =
        w.store.softDeletes + events.countP (·.name == .deleted) :=
  ⟨by decide, audit_trail_matches_writes (V := emailValidator) _ (by decide) {}⟩

end UserDirectory.Session
