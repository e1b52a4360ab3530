import UserDirectory.Proofs.Outcomes

/-!
# What the operations do to the store, and how they fail

Two consequences of how each operation ends (`UserDirectory.Account.Ending`), from any world.

*Store effects.* Reading, by id, by email, as the current user or a page of a listing, keeps the
stored profiles and the write counters whatever it answers: at most an armed failure is consumed
(`Store.Keeps`). Every operation that answers a failure keeps them too, wherever the failure
struck: refusing input, loading the target, resolving the caller inside the policy, or writing.
A rename that succeeds puts the profile renamed to the stripped name, stamped with the clock, in
place of the live profile with the id and counts one update; a deletion that succeeds puts the
profile marked deleted in its place and counts one soft deletion; a creation adds the new profile
and counts it (`Effects`, `operations_store_effects`).

*Containment.* Given strings or nothing where texts are expected, whole page bounds and a supply
that hands out identifiers, no operation raises a fault (`Contained`). The infrastructure failure
is answered exactly when an armed failure of the store went off, and a refused input leaves the
store as it was, armed failures included, since input is checked before the store is called
(`operations_contain_errors`). The service answers the infrastructure failure with its generic
error response.
-/

namespace UserDirectory.Account

open Act

/-! ## Endings read as store effects -/

namespace Store

variable {s s' : Store}

theorem Fired.keeps (h : s.Fired s') : s.Keeps s' := by
  rcases h with ⟨-, rfl⟩ | ⟨-, rfl⟩
  · exact Keeps.disarmRead s
  · exact Keeps.disarmWrite s

theorem not_fired_of_slots (hr : s'.readFailure = s.readFailure)
    (hw : s'.writeFailure = s.writeFailure) : ¬ s.Fired s' := by
  rintro (⟨hs, rfl⟩ | ⟨hs, rfl⟩)
  · rw [← hr] at hs
    cases hs
  · rw [← hw] at hs
    cases hs

end Store

section Endings

variable {α : Type} {m : Prop} {d : α → Store → Store → Prop} {s s' : Store}
  {r : Except Fault (Outcome α)}

theorem Ending.keeps_of_failure (h : Ending m d s r s') {f : Failure} (hr : r = .ok (.error f)) :
    s.Keeps s' := by
  cases h with
  | refused => exact .refl s
  | fired hf => exact hf.keeps
  | failed => exact .refl s
  | faulted => cases hr
  | succeeded => cases hr

theorem Ending.store_of_fault (h : Ending m d s r s') {f : Fault} (hr : r = .error f) : s' = s := by
  cases h with
  | faulted => rfl
  | _ => cases hr

theorem Ending.done_of_success (h : Ending m d s r s') {a : α} (hr : r = .ok (.ok a)) :
    d a s s' := by
  cases h with
  | succeeded _ hd =>
    cases hr
    exact hd
  | _ => cases hr

end Endings

/-- What an operation did to the store when it answered: a failure kept the profiles and the
write counters, and a success did `done`. -/
structure Effects {α : Type} (done : α → Store → Store → Prop) (x : Act (Outcome α))
    (w : World) : Prop where
  failure : ∀ f, (x.exec w).1 = .ok (.error f) → w.store.Keeps (x.exec w).2.store
  success : ∀ a, (x.exec w).1 = .ok (.ok a) → done a w.store (x.exec w).2.store

theorem Effects.of_ends {α : Type} {m : Prop} {d : α → Store → Store → Prop}
    {x : Act (Outcome α)} {w : World} (h : Ends m d x w) : Effects d x w where
  failure _ hf := Ending.keeps_of_failure h hf
  success _ ha := Ending.done_of_success h ha

/-- The store effects of the directory's operations, from any world: reads keep the profiles and
the write counters whatever they answer; rename, delete and create keep them when they answer a
failure, and on success do exactly what `Renamed`, `Deleted` and `Added` say. -/
theorem operations_store_effects [V : Mail.AddressValidator] (w : World) :
    (∀ caller, w.store.Keeps ((currentUser caller).exec w).2.store) ∧
    (∀ t caller, w.store.Keeps ((userById t caller).exec w).2.store) ∧
    (∀ e caller, w.store.Keeps ((userByEmail e caller).exec w).2.store) ∧
    (∀ r, w.store.Keeps ((listUsers r).exec w).2.store) ∧
    (∀ t n caller, Effects (Renamed t n w.clock) (renameUser t n caller) w) ∧
    (∀ t caller, Effects (Deleted t w.clock) (deleteUser t caller) w) ∧
    (∀ e n x, Effects Added (createUser e n x) w) :=
  ⟨fun caller => keeps_currentUser caller w, fun t caller => keeps_userById t caller w,
    fun e caller => keeps_userByEmail e caller w, fun r => keeps_listUsers r w,
    fun t n caller => Effects.of_ends (ends_renameUser t n caller w),
    fun t caller => Effects.of_ends (ends_deleteUser t caller w),
    fun e n x => Effects.of_ends (ends_createUser e n x w)⟩

/-! ## Containment -/

/-- A success that writes keeps the failure slots: only a failure going off consumes one. -/
def KeepsSlots {α : Type} (done : α → Store → Store → Prop) : Prop :=
  ∀ a s s', done a s s' → s'.readFailure = s.readFailure ∧ s'.writeFailure = s.writeFailure

theorem keepsSlots_unwritten {α : Type} : KeepsSlots (Unwritten (α := α)) := by
  rintro _ s _ rfl
  exact ⟨rfl, rfl⟩

theorem keepsSlots_answered : KeepsSlots Answered := by
  rintro _ s _ ⟨rfl, -⟩
  exact ⟨rfl, rfl⟩

theorem keepsSlots_renamed (t n : Given) (now : Instant) : KeepsSlots (Renamed t n now) := by
  rintro _ s _ ⟨_, _, _, _, _, _, _, _, rfl⟩
  exact ⟨rfl, rfl⟩

theorem keepsSlots_deleted (t : Given) (now : Instant) : KeepsSlots (Deleted t now) := by
  rintro _ s _ ⟨_, _, _, _, _, _, rfl⟩
  exact ⟨rfl, rfl⟩

theorem keepsSlots_added : KeepsSlots Added := by
  rintro _ s _ ⟨_, _, rfl⟩
  exact ⟨rfl, rfl⟩

/-- A run that contains its errors: it answers an outcome and raises no fault; it answers the
infrastructure failure exactly when an armed failure of the store went off; and a refusal of its
input leaves the store as it was, armed failures included. -/
structure Contained {α : Type} (x : Act (Outcome α)) (w : World) : Prop where
  answers : ∃ o, (x.exec w).1 = .ok o
  infrastructure : (x.exec w).1 = .ok (.error .infrastructure) ↔ w.store.Fired (x.exec w).2.store
  refusal : ∀ msg, (x.exec w).1 = .ok (.error (.validation msg)) → (x.exec w).2.store = w.store

section Contain

variable {α : Type} {m : Prop} {d : α → Store → Store → Prop} {s s' : Store}

theorem Ending.answers {r : Except Fault (Outcome α)} (h : Ending m d s r s') (hm : ¬ m) :
    ∃ o, r = .ok o := by
  cases h with
  | faulted _ hf => exact absurd hf hm
  | _ => exact ⟨_, rfl⟩

theorem Ending.infrastructure_iff {r : Except Fault (Outcome α)} (h : Ending m d s r s')
    (hm : ¬ m) (hd : KeepsSlots d) : r = .ok (.error .infrastructure) ↔ s.Fired s' := by
  cases h with
  | refused msg =>
    refine ⟨nofun, fun hf => absurd hf (Store.not_fired_of_slots rfl rfl)⟩
  | fired hf => exact ⟨fun _ => hf, fun _ => rfl⟩
  | failed f hv hi =>
    refine ⟨fun hr => ?_, fun hf => absurd hf (Store.not_fired_of_slots rfl rfl)⟩
    cases hr
    exact absurd rfl hi
  | faulted _ hf => exact absurd hf hm
  | succeeded a ha =>
    obtain ⟨hr, hw⟩ := hd a _ _ ha
    exact ⟨nofun, fun hf => absurd hf (Store.not_fired_of_slots hr hw)⟩

theorem Ending.refusal {r : Except Fault (Outcome α)} (h : Ending m d s r s') {msg : String}
    (hr : r = .ok (.error (.validation msg))) : s' = s := by
  cases h with
  | refused => rfl
  | fired => cases hr
  | failed f hv =>
    cases hr
    exact absurd rfl hv
  | faulted => rfl
  | succeeded => cases hr

theorem Contained.of_ends {x : Act (Outcome α)} {w : World} (h : Ends m d x w) (hm : ¬ m)
    (hd : KeepsSlots d) : Contained x w where
  answers := Ending.answers h hm
  infrastructure := Ending.infrastructure_iff h hm hd
  refusal _ hr := Ending.refusal h hr

end Contain

/-- Errors are contained: from any world whose supply hands out identifiers, with strings or
nothing for the texts and whole page bounds, every operation answers an outcome, answers the
infrastructure failure exactly when an armed failure of the store went off, and refuses input
without touching the store; the service answers that failure with its generic error. -/
theorem operations_contain_errors [V : Mail.AddressValidator] (w : World) (hv : w.ids.Valid)
    {e n x : Given}
    (he : e.textOrNone = true) (hn : n.textOrNone = true) (hx : x.textOrNone = true)
    (t : Given) (caller : Option Caller) {r : ListRequest} (hs : r.search.textOrNone = true)
    {a b : Int} (ha : r.pageNumber = .whole a) (hb : r.pageSize = .whole b) :
    Contained (createUser e n x) w ∧ Contained (currentUser caller) w ∧
      Contained (userById t caller) w ∧ Contained (userByEmail e caller) w ∧
      Contained (renameUser t n caller) w ∧ Contained (deleteUser t caller) w ∧
      Contained (listUsers r) w ∧ Web.failureResponse .infrastructure = Web.unexpectedError :=
  ⟨Contained.of_ends (ends_createUser e n x w) (fun h => h ⟨he, hn, hx, hv⟩) keepsSlots_added,
    Contained.of_ends (ends_currentUser caller w) id keepsSlots_answered,
    Contained.of_ends (ends_userById t caller w) id keepsSlots_answered,
    Contained.of_ends (ends_userByEmail e caller w) (by simp [he]) keepsSlots_answered,
    Contained.of_ends (ends_renameUser t n caller w) (by simp [hn])
      (keepsSlots_renamed t n w.clock),
    Contained.of_ends (ends_deleteUser t caller w) id (keepsSlots_deleted t w.clock),
    Contained.of_ends (ends_listUsers r ha hb w) (by simp [hs]) keepsSlots_unwritten, rfl⟩

/-- The sample world with a read and a write failure armed, Ann calling, and strings for every
text: Cy's id as the target, a new user's fields, and a search over pages of two. -/
theorem operations_contain_errors_armed :
    letI := Session.emailValidator
    let w : World :=
      { store := { Sample.store with readFailure := some (.ofString "read failed")
                                     writeFailure := some (.ofString "disk full") } }
    let e : Given := .ofString "dee@example.org"
    let n : Given := .ofString "Dee"
    let x : Given := .ofString "ext-dee"
    let t : Given := .ofString Sample.cy.id
    let caller : Option Caller := some ⟨Sample.ann.externalId, .user⟩
    let r : ListRequest := { search := .ofString "example", pageSize := .whole 2 }
    w.ids.Valid ∧ e.textOrNone = true ∧ n.textOrNone = true ∧ x.textOrNone = true ∧
      r.search.textOrNone = true ∧
      (Contained (createUser e n x) w ∧ Contained (currentUser caller) w ∧
        Contained (userById t caller) w ∧ Contained (userByEmail e caller) w ∧
        Contained (renameUser t n caller) w ∧ Contained (deleteUser t caller) w ∧
        Contained (listUsers r) w ∧ Web.failureResponse .infrastructure = Web.unexpectedError) :=
  by
  intro w e n x t caller r
  have hv : w.ids.Valid := IdSupply.valid_of_presets rfl
  exact ⟨hv, rfl, rfl, rfl, rfl,
    operations_contain_errors (V := Session.emailValidator) w hv rfl rfl rfl t caller rfl rfl rfl⟩

end UserDirectory.Account
