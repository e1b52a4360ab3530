import UserDirectory.Proofs.Seeding
import UserDirectory.Proofs.SoftDelete

/-!
# What adding a profile keeps

The store is a dictionary from ids to profiles, and `add` writes the new profile under its own id
(`Store.put`). It refuses a clash of email or external id with a live profile, but it never
looks at the id: identifiers are trusted to be fresh.

So a successful add keeps every stored profile with another id as it was, live or deleted, and
stores the new profile under its id (`Store.AddKeeps`). The number of stored profiles grows by one
exactly when no profile had that id (`Store.length_put`). This holds of the profile a creation
adds and of the administrator a seeding provisions (`add_keeps_records`).

An identifier supply that hands out an id twice makes the second add replace the first profile
in place: the store then keeps one profile, not two (`add_repeated_id_replaces`).
-/

namespace UserDirectory.Account

open Act

namespace Store

variable {ps : List Profile} {p : Profile}

theorem find?_put_self (ps : List Profile) (p : Profile) :
    (put ps p).find? (·.id == p.id) = some p := by
  unfold put
  split
  · rename_i hany
    have htest : ((·.id == p.id) ∘ fun q : Profile => if q.id == p.id then p else q) =
        (·.id == p.id) := by
      funext q
      by_cases h : q.id = p.id <;> simp [h]
    rw [List.find?_map, htest]
    obtain ⟨q, hq⟩ := Option.isSome_iff_exists.mp (List.find?_isSome.mpr (List.any_eq_true.mp hany))
    have hqid : q.id = p.id := by simpa using List.find?_some hq
    rw [hq]
    simp [hqid]
  · rename_i hany
    have hnone : ps.find? (·.id == p.id) = none :=
      List.find?_eq_none.mpr fun q hq hqid => hany (List.any_eq_true.mpr ⟨q, hq, hqid⟩)
    rw [List.find?_append, hnone]
    simp

theorem length_put (ps : List Profile) (p : Profile) :
    (put ps p).length = ps.length + if ps.any (·.id == p.id) then 0 else 1 := by
  unfold put
  split <;> simp

/-- What a successful add of `u` did to the profiles, from the store `s` to `s'`: every profile
with another id is still found under its id, `u` is found under its id, and the count grew by
one unless a profile with the id of `u` was stored. -/
structure AddKeeps (s s' : Store) (u : Profile) : Prop where
  others : ∀ r ∈ s.profiles, r.id ≠ u.id → s'.find? r.id = some r
  added : s'.find? u.id = some u
  count : s'.profiles.length = s.profiles.length + if s.profiles.any (·.id == u.id) then 0 else 1

theorem addKeeps_put {s s' : Store} {u : Profile} (hids : (s.profiles.map (·.id)).Nodup)
    (hs : s'.profiles = put s.profiles u) : AddKeeps s s' u where
  others r hr hne := by
    rw [find?_of_put_ne hs hne.symm]
    exact find?_self hids hr
  added := by
    unfold find?
    rw [hs]
    exact find?_put_self s.profiles u
  count := by rw [hs, length_put]

theorem AddKeeps.fresh {s s' : Store} {u : Profile} (h : AddKeeps s s' u)
    (hfresh : ∀ r ∈ s.profiles, r.id ≠ u.id) :
    (∀ r ∈ s.profiles, s'.find? r.id = some r) ∧ s'.profiles.length = s.profiles.length + 1 := by
  have hany : s.profiles.any (·.id == u.id) = false :=
    Bool.eq_false_iff.mpr fun hany => by
      obtain ⟨r, hr, hid⟩ := List.any_eq_true.mp hany
      exact hfresh r hr (beq_iff_eq.mp hid)
  refine ⟨fun r hr => h.others r hr (hfresh r hr), ?_⟩
  rw [h.count, hany]
  rfl

end Store

/-! ## The adds of the directory -/

variable {w : World}

theorem createUser_addKeeps [V : Mail.AddressValidator] (hreach : Store.Reachable w.store)
    {e n x : Given} {u : Profile}
    (h : ((createUser e n x).exec w).1 = .ok (.ok u)) :
    (∃ id : Ident.Uuid, u.id = id.text) ∧
      Store.AddKeeps w.store ((createUser e n x).exec w).2.store u := by
  obtain ⟨hid, -, hs⟩ := (Effects.of_ends (ends_createUser e n x w)).success u h
  refine ⟨hid, Store.addKeeps_put hreach.unique.ids ?_⟩
  rw [hs]

theorem seedAdmin_addKeeps [V : Mail.AddressValidator] (hreach : Store.Reachable w.store)
    {c : SeedConfig} {w₁ : World}
    (h : (seedAdmin c).exec w = (.ok .provisioned, w₁)) :
    ∃ admin : Profile, (∃ id : Ident.Uuid, admin.id = id.text) ∧ admin.role = .admin ∧
      Store.AddKeeps w.store w₁.store admin := by
  obtain ⟨m, t, pw, -, -, hseed⟩ := seedAdmin_checked (congrArg Prod.fst h) nofun
  rw [hseed] at h
  obtain ⟨i, admin, hprov⟩ := seedChecked_provisioning h
  exact ⟨admin, hprov.made.id, hprov.made.role,
    Store.addKeeps_put hreach.unique.ids hprov.profiles⟩

/-- Adding never loses a profile with another id. From a reachable store, the profile that a
creation adds, and the administrator that a seeding provisions, each with an identifier's text as
its id, are stored under their id; every profile stored before with another id, live or deleted,
is still found under its id; and the count of profiles grows by one unless a profile with that id
was stored, in which case the new profile takes its place. -/
theorem add_keeps_records [V : Mail.AddressValidator] (hreach : Store.Reachable w.store) :
    (∀ e n x u, ((createUser e n x).exec w).1 = .ok (.ok u) →
      (∃ id : Ident.Uuid, u.id = id.text) ∧
        Store.AddKeeps w.store ((createUser e n x).exec w).2.store u) ∧
    (∀ c w₁, (seedAdmin c).exec w = (.ok .provisioned, w₁) →
      ∃ admin : Profile, (∃ id : Ident.Uuid, admin.id = id.text) ∧ admin.role = .admin ∧
        Store.AddKeeps w.store w₁.store admin) :=
  ⟨fun _ _ _ _ h => createUser_addKeeps hreach h, fun _ _ h => seedAdmin_addKeeps hreach h⟩

/-- The sample store, which holds live and deleted profiles that an addition must keep. -/
theorem add_keeps_records_sample :
    letI := Session.emailValidator
    let w : World := { store := Sample.store }
    Store.Reachable w.store ∧
    (∀ e n x u, ((createUser e n x).exec w).1 = .ok (.ok u) →
      (∃ id : Ident.Uuid, u.id = id.text) ∧
        Store.AddKeeps w.store ((createUser e n x).exec w).2.store u) ∧
    (∀ c w₁, (seedAdmin c).exec w = (.ok .provisioned, w₁) →
      ∃ admin : Profile, (∃ id : Ident.Uuid, admin.id = id.text) ∧ admin.role = .admin ∧
        Store.AddKeeps w.store w₁.store admin) :=
  ⟨Sample.store_reachable, add_keeps_records (V := Session.emailValidator) Sample.store_reachable⟩

/-- An id handed out twice: adding a second profile under the first identifier to the store that
holds the first profile replaces it. The store is reachable, the add succeeds, and afterwards the
store holds one profile, not two, and the first one is gone. -/
theorem add_repeated_id_replaces :
    let a : Profile :=
      { id := (Ident.Uuid.ofNat 1).text
        email := "a@example.com"
        displayName := Text.ofString "A"
        externalId := Text.ofString "ext-a"
        role := .user
        createdAt := Instant.sessionStart }
    let b : Profile :=
      { id := (Ident.Uuid.ofNat 1).text
        email := "b@example.com"
        displayName := Text.ofString "B"
        externalId := Text.ofString "ext-b"
        role := .user
        createdAt := Instant.sessionStart }
    let s := (Store.add a {}).2
    Store.Reachable s ∧ s.profiles = [a] ∧
      Store.add b s = (.ok b, { s with profiles := [b], adds := 2 }) ∧
      a ∉ (Store.add b s).2.profiles ∧
      (Store.add b s).2.profiles.length = s.profiles.length := by
  intro a b s
  have hx : Text.ofString "ext-a" ≠ Text.ofString "ext-b" := by decide
  have hadd : Store.add b s = (.ok b, { s with profiles := [b], adds := 2 }) := by
    simp [s, a, b, Store.add, Store.beginWrite, Store.clashOf, Store.put, hx]
  refine ⟨.add _ .empty, by simp [s, a, Store.add, Store.beginWrite, Store.clashOf, Store.put],
    hadd, ?_, ?_⟩
  · rw [hadd]
    simp [a, b]
  · rw [hadd]
    simp [s, a, Store.add, Store.beginWrite, Store.clashOf, Store.put]

end UserDirectory.Account
