import Mathlib.Data.List.Nodup
import Mathlib.Data.List.Perm.Basic
import UserDirectory.Proofs.Run

/-!
# Unique keys in the profile store

The store stands for a dictionary from ids to profiles: `put` writes a profile under its own id,
in place of the profile stored there. So a stored profile's key is always its id, and what the
dictionary promises is that no two stored profiles share one (`Unique.ids`).

Beyond that the store keeps two keys unique among the *live* profiles: no two of them share an
email, and no two share an external id (`LiveKey`). `add` refuses a profile that clashes with a
live one, `softDelete` only takes a profile out of the live ones, and an update that keeps the
email and the external id of the profile it replaces (`KeepsKeys`) changes neither key. Every
store that these operations reach from the empty store is therefore `Unique`
(`Reachable.unique`), and there a read by email or by external id, a first-match scan in
insertion order, finds the one live profile with that key whatever the order of the profiles
(`reachable_lookup_unique`).
-/

namespace UserDirectory.Account

namespace Store

/-! ## Putting a profile -/

variable {ps : List Profile} {p q : Profile}

theorem mem_put : q ∈ put ps p ↔ q = p ∨ (q ∈ ps ∧ q.id ≠ p.id) := by
  unfold put
  split
  · rename_i hany
    obtain ⟨r, hr, hrid⟩ := List.any_eq_true.mp hany
    simp only [List.mem_map]
    constructor
    · rintro ⟨r', hr', rfl⟩
      by_cases h : r'.id = p.id
      · simp [h]
      · simp [h, hr']
    · rintro (rfl | ⟨hq, hid⟩)
      · exact ⟨r, hr, by simp [beq_iff_eq.mp hrid]⟩
      · exact ⟨q, hq, by simp [hid]⟩
  · rename_i hany
    have hfresh : ∀ r ∈ ps, r.id ≠ p.id := fun r hr hid => hany (List.any_eq_true.mpr ⟨r, hr, by simp [hid]⟩)
    simp only [List.mem_append, List.mem_singleton]
    constructor
    · rintro (hq | rfl)
      · exact .inr ⟨hq, hfresh q hq⟩
      · exact .inl rfl
    · rintro (rfl | ⟨hq, _⟩)
      · exact .inr rfl
      · exact .inl hq

theorem map_id_put :
    (put ps p).map (·.id) =
      if ps.any (·.id == p.id) then ps.map (·.id) else ps.map (·.id) ++ [p.id] := by
  unfold put
  split
  · rw [List.map_map]
    apply List.map_congr_left
    intro r _
    by_cases h : r.id = p.id <;> simp [h]
  · simp

/-! ## The invariant -/

/-- No two live profiles share the key `key`. -/
def LiveKey {α : Type} (key : Profile → α) (ps : List Profile) : Prop :=
  ∀ p ∈ ps, ∀ q ∈ ps, p.deleted = false → q.deleted = false → key p = key q → p = q

/-- The store's keys are unique: ids among all profiles, emails and external ids among the live
ones. -/
structure Unique (ps : List Profile) : Prop where
  ids : (ps.map (·.id)).Nodup
  emails : LiveKey (·.email) ps
  externalIds : LiveKey (·.externalId) ps

theorem LiveKey.put {α : Type} {key : Profile → α} (h : LiveKey key ps)
    (hp : ∀ r ∈ ps, r.id ≠ p.id → r.deleted = false → p.deleted = false → key r ≠ key p) :
    LiveKey key (Store.put ps p) := by
  intro r₁ h₁ r₂ h₂ l₁ l₂ hk
  rcases mem_put.mp h₁ with e₁ | ⟨m₁, hid₁⟩ <;> rcases mem_put.mp h₂ with e₂ | ⟨m₂, hid₂⟩
  · exact e₁.trans e₂.symm
  · rw [e₁] at hk l₁
    exact absurd hk.symm (hp r₂ m₂ hid₂ l₂ l₁)
  · rw [e₂] at hk l₂
    exact absurd hk (hp r₁ m₁ hid₁ l₁ l₂)
  · exact h r₁ m₁ r₂ m₂ l₁ l₂ hk

theorem nodup_map_id_put (h : (ps.map (·.id)).Nodup) : ((put ps p).map (·.id)).Nodup := by
  rw [map_id_put]
  split
  · exact h
  · rename_i hany
    refine List.nodup_append.mpr ⟨h, List.nodup_singleton _, ?_⟩
    intro a ha b hb hab
    simp only [List.mem_singleton] at hb
    obtain ⟨r, hr, rfl⟩ := List.mem_map.mp ha
    exact hany (List.any_eq_true.mpr ⟨r, hr, by simp [hab, hb]⟩)

theorem Unique.put (h : Unique ps)
    (hp : ∀ r ∈ ps, r.id ≠ p.id → r.deleted = false → p.deleted = false →
      r.email ≠ p.email ∧ r.externalId ≠ p.externalId) :
    Unique (Store.put ps p) :=
  ⟨nodup_map_id_put h.ids,
    h.emails.put fun r hr hid l₁ l₂ => (hp r hr hid l₁ l₂).1,
    h.externalIds.put fun r hr hid l₁ l₂ => (hp r hr hid l₁ l₂).2⟩

theorem Unique.put_deleted (h : Unique ps) (hp : p.deleted = true) : Unique (Store.put ps p) :=
  h.put fun _ _ _ _ hl => absurd hl (by simp [hp])

theorem Unique.perm {ps' : List Profile} (h : Unique ps) (hperm : ps'.Perm ps) : Unique ps' :=
  ⟨(hperm.map _).nodup_iff.mpr h.ids,
    fun p hp q hq => h.emails p (hperm.mem_iff.mp hp) q (hperm.mem_iff.mp hq),
    fun p hp q hq => h.externalIds p (hperm.mem_iff.mp hp) q (hperm.mem_iff.mp hq)⟩

/-! ## What each write can do -/

variable {s : Store}

theorem clashOf_eq_none :
    clashOf ps p = none ↔
      ∀ r ∈ ps, r.deleted = false → r.email ≠ p.email ∧ r.externalId ≠ p.externalId := by
  unfold clashOf
  rw [List.findSome?_eq_none_iff]
  refine forall₂_congr fun r _ => ?_
  by_cases hd : r.deleted <;> by_cases he : r.email = p.email <;>
    by_cases hx : r.externalId = p.externalId <;> simp [hd, he, hx]

theorem beginWrite_profiles (s : Store) : s.beginWrite.2.profiles = s.profiles := by
  unfold beginWrite
  split <;> rfl

theorem beginWrite_find? (s : Store) (id : String) : s.beginWrite.2.find? id = s.find? id := by
  simp only [find?, beginWrite_profiles]

theorem add_profiles (p : Profile) (s : Store) :
    (add p s).2.profiles = s.profiles ∨
      (clashOf s.profiles p = none ∧ (add p s).2.profiles = put s.profiles p) := by
  unfold add
  rcases hw : s.beginWrite with ⟨_ | _, s'⟩
  all_goals have hs : s'.profiles = s.profiles := by rw [← beginWrite_profiles s, hw]
  · exact .inl hs
  · dsimp only
    split
    · exact .inl hs
    · rename_i hc
      exact .inr ⟨hs ▸ hc, by simp [hs]⟩

theorem update_profiles (p : Profile) (s : Store) :
    (update p s).2.profiles = s.profiles ∨
      (∃ q, s.find? p.id = some q ∧ q.deleted = false ∧
        (update p s).2.profiles = put s.profiles p) := by
  unfold update
  rcases hw : s.beginWrite with ⟨_ | _, s'⟩
  all_goals have hs : s'.profiles = s.profiles := by rw [← beginWrite_profiles s, hw]
  · exact .inl hs
  · have hf : s'.find? p.id = s.find? p.id := by rw [← beginWrite_find? s p.id, hw]
    dsimp only
    split
    · rename_i q hq
      split
      · exact .inl hs
      · rename_i hd
        exact .inr ⟨q, hf ▸ hq, by simpa using hd, by simp [hs]⟩
    · exact .inl hs

theorem softDelete_profiles (id : String) (now : Instant) (s : Store) :
    (softDelete id now s).2.profiles = s.profiles ∨
      (∃ q, s.find? id = some q ∧ q.deleted = false ∧
        (softDelete id now s).2.profiles = put s.profiles (q.markDeleted now)) := by
  unfold softDelete
  rcases hw : s.beginWrite with ⟨_ | _, s'⟩
  all_goals have hs : s'.profiles = s.profiles := by rw [← beginWrite_profiles s, hw]
  · exact .inl hs
  · have hf : s'.find? id = s.find? id := by rw [← beginWrite_find? s id, hw]
    dsimp only
    split
    · rename_i q hq
      split
      · exact .inl hs
      · rename_i hd
        exact .inr ⟨q, hf ▸ hq, by simpa using hd, by simp [hs]⟩
    · exact .inl hs

/-! ## Each write keeps the keys unique -/

theorem add_unique (p : Profile) (h : Unique s.profiles) : Unique (add p s).2.profiles := by
  rcases add_profiles p s with hs | ⟨hc, hs⟩
  · exact hs ▸ h
  · rw [hs]
    exact h.put fun r hr _ hl _ => clashOf_eq_none.mp hc r hr hl

theorem softDelete_unique (id : String) (now : Instant) (h : Unique s.profiles) :
    Unique (softDelete id now s).2.profiles := by
  rcases softDelete_profiles id now s with hs | ⟨q, _, _, hs⟩
  · exact hs ▸ h
  · exact hs ▸ h.put_deleted (Profile.markDeleted_deleted q now)

/-- An update keeps the keys of the stored profile with its id: its email and external id. -/
def KeepsKeys (s : Store) (p : Profile) : Prop :=
  ∀ q, s.find? p.id = some q → q.email = p.email ∧ q.externalId = p.externalId

theorem update_unique (p : Profile) (h : Unique s.profiles) (hk : KeepsKeys s p) :
    Unique (update p s).2.profiles := by
  rcases update_profiles p s with hs | ⟨q, hq, hl, hs⟩
  · exact hs ▸ h
  · rw [hs]
    have hmem : q ∈ s.profiles := List.mem_of_find?_eq_some hq
    have hqid : q.id = p.id := by simpa using List.find?_some hq
    obtain ⟨he, hx⟩ := hk q hq
    refine h.put fun r hr hid hr' _ => ⟨fun hre => ?_, fun hrx => ?_⟩
    · exact hid (hqid ▸ congrArg (·.id) (h.emails r hr q hmem hr' hl (hre.trans he.symm)))
    · exact hid (hqid ▸ congrArg (·.id) (h.externalIds r hr q hmem hr' hl (hrx.trans hx.symm)))

/-! ## Reachable stores -/

/-- The stores reached from the empty store by adding any profile, soft-deleting by any id and
updating with a profile that keeps the keys of the one it replaces. -/
inductive Reachable : Store → Prop
  | empty : Reachable {}
  | add {s : Store} (p : Profile) : Reachable s → Reachable (add p s).2
  | softDelete {s : Store} (id : String) (now : Instant) : Reachable s →
      Reachable (softDelete id now s).2
  | update {s : Store} (p : Profile) : Reachable s → KeepsKeys s p → Reachable (update p s).2

theorem Reachable.unique (h : Reachable s) : Unique s.profiles := by
  induction h with
  | empty => exact ⟨List.nodup_nil, (fun _ h => nomatch h), (fun _ h => nomatch h)⟩
  | add p _ ih => exact add_unique p ih
  | softDelete id now _ ih => exact softDelete_unique id now ih
  | update p _ hk ih => exact update_unique p ih hk

theorem beginWrite_slots (s : Store) :
    s.beginWrite.2.readFailure = s.readFailure ∧ s.beginWrite.2.writeFailure = none := by
  unfold beginWrite
  split
  · exact ⟨rfl, rfl⟩
  · rename_i hw
    exact ⟨rfl, hw⟩

theorem add_slots (p : Profile) (s : Store) :
    (add p s).2.readFailure = s.readFailure ∧ (add p s).2.writeFailure = none := by
  have hb := beginWrite_slots s
  unfold add
  rcases hw : s.beginWrite with ⟨_ | _, s'⟩ <;> rw [hw] at hb <;> dsimp only
  · exact hb
  · split <;> exact hb

theorem update_slots (p : Profile) (s : Store) :
    (update p s).2.readFailure = s.readFailure ∧ (update p s).2.writeFailure = none := by
  have hb := beginWrite_slots s
  unfold update
  rcases hw : s.beginWrite with ⟨_ | _, s'⟩ <;> rw [hw] at hb <;> dsimp only
  · exact hb
  · split
    · split <;> exact hb
    · exact hb

theorem softDelete_slots (id : String) (now : Instant) (s : Store) :
    (softDelete id now s).2.readFailure = s.readFailure ∧
      (softDelete id now s).2.writeFailure = none := by
  have hb := beginWrite_slots s
  unfold softDelete
  rcases hw : s.beginWrite with ⟨_ | _, s'⟩ <;> rw [hw] at hb <;> dsimp only
  · exact hb
  · split
    · split <;> exact hb
    · exact hb

theorem Reachable.readFailure (h : Reachable s) : s.readFailure = none := by
  induction h with
  | empty => rfl
  | @add s p _ ih => rw [(add_slots p s).1, ih]
  | @softDelete s id now _ ih => rw [(softDelete_slots id now s).1, ih]
  | @update s p _ _ ih => rw [(update_slots p s).1, ih]

theorem Reachable.writeFailure (h : Reachable s) : s.writeFailure = none := by
  cases h with
  | empty => rfl
  | add p _ => exact (add_slots p _).2
  | softDelete id now _ => exact (softDelete_slots id now _).2
  | update p _ _ => exact (update_slots p _).2

/-! ## Reads in a store with unique keys -/

theorem find?_eq_some_iff_of_unique {α : Type} {l : List α} {f : α → Bool}
    (hu : ∀ a ∈ l, ∀ b ∈ l, f a = true → f b = true → a = b) {a : α} :
    l.find? f = some a ↔ a ∈ l ∧ f a = true := by
  constructor
  · intro h
    exact ⟨List.mem_of_find?_eq_some h, List.find?_some h⟩
  · rintro ⟨ha, hfa⟩
    obtain ⟨b, hb⟩ := Option.isSome_iff_exists.mp (List.find?_isSome.mpr ⟨a, ha, hfa⟩)
    rw [hb, hu b (List.mem_of_find?_eq_some hb) a ha (List.find?_some hb) hfa]

theorem LiveKey.comp {α β : Type} {key : Profile → α} {f : α → β} (h : LiveKey key ps)
    (hf : Function.Injective f) : LiveKey (fun q => f (key q)) ps :=
  fun p hp q hq lp lq hk => h p hp q hq lp lq (hf hk)

theorem firstVisible_eq_some_iff {α : Type} {key : Profile → α} (hk : LiveKey key s.profiles)
    (v : α) (test : Profile → Bool) (htest : ∀ q, test q = true ↔ key q = v) {p : Profile} :
    s.firstVisible test false = some p ↔ p ∈ s.profiles ∧ p.deleted = false ∧ key p = v := by
  have hvis : ∀ q : Profile, (test q && q.visible false) = true ↔ key q = v ∧ q.deleted = false := by
    intro q
    simp [Profile.visible, htest]
  unfold firstVisible
  rw [find?_eq_some_iff_of_unique, hvis]
  · tauto
  · intro a ha b hb hta htb
    obtain ⟨ka, la⟩ := (hvis a).mp hta
    obtain ⟨kb, lb⟩ := (hvis b).mp htb
    exact hk a ha b hb la lb (ka.trans kb.symm)

theorem reading_firstVisible {α : Type} {key : Profile → α} (hr : s.readFailure = none)
    (hk : LiveKey key s.profiles) (v : α) (test : Profile → Bool)
    (htest : ∀ q, test q = true ↔ key q = v) :
    ∃ r, reading (fun s => s.firstVisible test false) s = (.ok r, s) ∧
      ∀ p, r = some p ↔ p ∈ s.profiles ∧ p.deleted = false ∧ key p = v :=
  ⟨_, reading_of_none _ hr, fun _ => firstVisible_eq_some_iff hk v test htest⟩

theorem find?_self {r : Profile} (hids : (s.profiles.map (·.id)).Nodup) (hr : r ∈ s.profiles) :
    s.find? r.id = some r := by
  unfold find?
  rw [find?_eq_some_iff_of_unique]
  · exact ⟨hr, beq_self_eq_true r.id⟩
  · intro a ha b hb hta htb
    rw [beq_iff_eq] at hta htb
    exact List.inj_on_of_nodup_map hids ha hb (hta.trans htb.symm)

theorem ofString_injective : Function.Injective Text.ofString := fun _ _ h =>
  String.toList_inj.mp (Text.ofChars_injective h)

theorem getByEmail_of_unique (hu : Unique s.profiles) (hr : s.readFailure = none) (e : Text) :
    ∃ r, getByEmail e false s = (.ok r, s) ∧
      ∀ p, r = some p ↔ p ∈ s.profiles ∧ p.deleted = false ∧
        Text.ofString p.email = e.strip.lower :=
  reading_firstVisible hr (hu.emails.comp ofString_injective) _ _ fun _ => beq_iff_eq

theorem getByExternalId_of_unique (hu : Unique s.profiles) (hr : s.readFailure = none)
    (x : Text) :
    ∃ r, getByExternalId x false s = (.ok r, s) ∧
      ∀ p, r = some p ↔ p ∈ s.profiles ∧ p.deleted = false ∧ p.externalId = x :=
  reading_firstVisible hr hu.externalIds _ _ fun _ => beq_iff_eq

theorem answer_eq {r r' : Option Profile} {P : Profile → Prop} (h : ∀ p, r = some p ↔ P p)
    (h' : ∀ p, r' = some p ↔ P p) : r = r' :=
  Option.ext fun p => (h p).trans (h' p).symm

/-- In every reachable store no two live profiles share an email or an external id and no two
profiles share an id; a read by email returns the live profile whose email is the stripped and
lower-cased text, and a read by external id the live profile with that external id, and neither
depends on the order in which the profiles are stored. -/
theorem reachable_lookup_unique (h : Reachable s) :
    Unique s.profiles ∧
    (∀ e : Text, ∃ r, getByEmail e false s = (.ok r, s) ∧
      ∀ p, r = some p ↔ p ∈ s.profiles ∧ p.deleted = false ∧
        Text.ofString p.email = e.strip.lower) ∧
    (∀ x : Text, ∃ r, getByExternalId x false s = (.ok r, s) ∧
      ∀ p, r = some p ↔ p ∈ s.profiles ∧ p.deleted = false ∧ p.externalId = x) ∧
    (∀ s' : Store, s'.readFailure = none → s'.profiles.Perm s.profiles → ∀ e x : Text,
      (getByEmail e false s').1 = (getByEmail e false s).1 ∧
        (getByExternalId x false s').1 = (getByExternalId x false s).1) := by
  have hu := h.unique
  have hr := h.readFailure
  refine ⟨hu, getByEmail_of_unique hu hr, getByExternalId_of_unique hu hr, ?_⟩
  intro s' hr' hperm e x
  have hu' := hu.perm hperm
  obtain ⟨r, hget, hspec⟩ := getByEmail_of_unique hu hr e
  obtain ⟨r', hget', hspec'⟩ := getByEmail_of_unique hu' hr' e
  obtain ⟨y, hgety, hy⟩ := getByExternalId_of_unique hu hr x
  obtain ⟨y', hgety', hy'⟩ := getByExternalId_of_unique hu' hr' x
  rw [hget, hget', hgety, hgety']
  refine ⟨congrArg Except.ok (answer_eq hspec' fun p => ?_),
    congrArg Except.ok (answer_eq hy' fun p => ?_)⟩
  · rw [hspec, hperm.mem_iff]
  · rw [hy, hperm.mem_iff]

end Store

/-! ## A sample store

Sample runs start from one store: Ann's first profile is added and deleted, and then Ann, Bob,
who administers, and Cy are added. The deleted profile shares Ann's email and comes first in store
order; all four were created at the same instant. -/

namespace Sample

/-- Ann's first profile, deleted before her current one is added. -/
def annOld : Profile :=
  { id := "00000000-0000-0000-0000-000000000004", email := "ann@example.org"
    displayName := .ofString "Ann", externalId := .ofString "ext-ann-0", role := .user
    createdAt := Instant.sessionStart }

def ann : Profile :=
  { id := "00000000-0000-0000-0000-000000000001", email := "ann@example.org"
    displayName := .ofString "Ann", externalId := .ofString "ext-ann", role := .user
    createdAt := Instant.sessionStart }

def bob : Profile :=
  { id := "00000000-0000-0000-0000-000000000002", email := "bob@example.org"
    displayName := .ofString "Bob", externalId := .ofString "ext-bob", role := .admin
    createdAt := Instant.sessionStart }

def cy : Profile :=
  { id := "00000000-0000-0000-0000-000000000003", email := "cy@example.org"
    displayName := .ofString "Cy", externalId := .ofString "ext-cy", role := .user
    createdAt := Instant.sessionStart }

/-- The sample store. -/
def store : Store :=
  (Store.add cy (Store.add bob (Store.add ann
    (Store.softDelete annOld.id Instant.sessionStart (Store.add annOld {}).2).2).2).2).2

theorem store_reachable : Store.Reachable store :=
  .add _ (.add _ (.add _ (.softDelete _ _ (.add _ .empty))))

end Sample

open Store in
/-- In the sample store, whose deleted profile shares a live one's email, the reads are the ones
above. -/
theorem Store.reachable_lookup_unique_sample :
    Reachable Sample.store ∧
    (Unique Sample.store.profiles ∧
    (∀ e : Text, ∃ r, getByEmail e false Sample.store = (.ok r, Sample.store) ∧
      ∀ p, r = some p ↔ p ∈ Sample.store.profiles ∧ p.deleted = false ∧
        Text.ofString p.email = e.strip.lower) ∧
    (∀ x : Text, ∃ r, getByExternalId x false Sample.store = (.ok r, Sample.store) ∧
      ∀ p, r = some p ↔ p ∈ Sample.store.profiles ∧ p.deleted = false ∧ p.externalId = x) ∧
    (∀ s' : Store, s'.readFailure = none → s'.profiles.Perm Sample.store.profiles → ∀ e x : Text,
      (getByEmail e false s').1 = (getByEmail e false Sample.store).1 ∧
        (getByExternalId x false s').1 = (getByExternalId x false Sample.store).1)) :=
  ⟨Sample.store_reachable, reachable_lookup_unique Sample.store_reachable⟩

end UserDirectory.Account
