import UserDirectory.Account.Service

/-!
# Running operations

An operation of the directory (`Act`) run on a world gives its result, a value or a fault, and the
world after it (`Act.exec`). The lemmas here compute runs piece by piece: `pure`, `>>=`, the
world's `get`, `set` and `modify`, `throw`, a store operation lifted to the world (`liftStore`),
an `attempt` that turns a fault into a value, reading the clock and reporting an event. Proofs
about whole operations unfold their `do` blocks into these pieces and never open the monad stack.

The store's own operations are computed here too: a read or a write with no failure armed leaves
the failure slots alone, and an armed failure is consumed and stops the operation.
-/

namespace UserDirectory.Account

/-- The result of an operation run on a world, and the world after it. -/
def Act.exec {α : Type} (x : Act α) (w : World) : Except Fault α × World :=
  x.run.run w

namespace Act

variable {α β : Type}

@[simp] theorem exec_pure (a : α) (w : World) : (pure a : Act α).exec w = (.ok a, w) := rfl

@[simp] theorem exec_bind (x : Act α) (f : α → Act β) (w : World) :
    (x >>= f).exec w =
      match x.exec w with
      | (.ok a, w') => (f a).exec w'
      | (.error e, w') => (.error e, w') := by
  simp only [exec, ExceptT.run_bind, StateT.run_bind]
  rcases x.run.run w with ⟨_ | _, w'⟩ <;> rfl

@[simp] theorem exec_map (f : α → β) (x : Act α) (w : World) :
    (f <$> x).exec w =
      match x.exec w with
      | (.ok a, w') => (.ok (f a), w')
      | (.error e, w') => (.error e, w') := by
  simp only [exec, ExceptT.run_map, StateT.run_map]
  rcases x.run.run w with ⟨_ | _, w'⟩ <;> rfl

theorem exec_map_fst (f : α → β) (x : Act α) (w : World) :
    ((f <$> x).exec w).1 = ((x.exec w).1).map f := by
  rw [exec_map]
  rcases x.exec w with ⟨_ | _, w'⟩ <;> rfl

@[simp] theorem exec_get (w : World) : (get : Act World).exec w = (.ok w, w) := rfl

@[simp] theorem exec_set (w w' : World) : (set w' : Act PUnit).exec w = (.ok ⟨⟩, w') := rfl

@[simp] theorem exec_modify (f : World → World) (w : World) :
    (modify f : Act PUnit).exec w = (.ok ⟨⟩, f w) := rfl

@[simp] theorem exec_throw (e : Fault) (w : World) : (throw e : Act α).exec w = (.error e, w) :=
  rfl

@[simp] theorem exec_now (w : World) : now.exec w = (.ok w.clock, w) := rfl

@[simp] theorem exec_notify (e : Event) (w : World) :
    (notify e).exec w = (.ok ⟨⟩, { w with events := w.events ++ [e] }) := rfl

@[simp] theorem exec_tryCatch (x : Act α) (h : Fault → Act α) (w : World) :
    (tryCatch x h : Act α).exec w =
      match x.exec w with
      | (.ok a, w') => (.ok a, w')
      | (.error e, w') => (h e).exec w' := by
  unfold exec
  generalize hx : x.run.run w = r
  simp only [ExceptT.run] at hx ⊢
  rcases r with ⟨_ | _, w'⟩
  all_goals
    simp only [tryCatch, MonadExcept.tryCatch, tryCatchThe, MonadExceptOf.tryCatch,
      ExceptT.tryCatch, ExceptT.mk, StateT.run_bind, hx]
    rfl

@[simp] theorem exec_attempt (x : Act α) (w : World) :
    (attempt x).exec w =
      match x.exec w with
      | (.ok a, w') => (.ok (.ok a), w')
      | (.error e, w') => (.ok (.error e), w') := by
  have hmap : (x.map Except.ok : Act (Except Fault α)) = Except.ok <$> x := rfl
  rw [attempt, hmap, exec_tryCatch, exec_map]
  rcases x.exec w with ⟨_ | _, w'⟩ <;> rfl

@[simp] theorem exec_liftStore (f : Store → StoreStep α) (w : World) :
    (liftStore f).exec w =
      match f w.store with
      | (.ok a, s') => (.ok a, { w with store := s' })
      | (.error e, s') => (.error e.toFault, { w with store := s' }) := by
  unfold liftStore
  simp only [exec_bind, exec_get, exec_set]
  rcases f w.store with ⟨_ | _, s'⟩ <;> rfl

end Act

namespace Store

variable {α : Type} {s : Store}

theorem beginRead_of_none (h : s.readFailure = none) : s.beginRead = (.ok (), s) := by
  simp [beginRead, h]

theorem beginWrite_of_none (h : s.writeFailure = none) : s.beginWrite = (.ok (), s) := by
  simp [beginWrite, h]

theorem reading_of_none (f : Store → α) (h : s.readFailure = none) :
    reading f s = (.ok (f s), s) := by
  simp [reading, beginRead_of_none h]

theorem reading_of_some (f : Store → α) {m : Text} (h : s.readFailure = some m) :
    reading f s = (.error (.failed m), { s with readFailure := none }) := by
  simp [reading, beginRead, h]

end Store

theorem Act.exec_liftStore_reading {α : Type} {w : World} (f : Store → α)
    (hr : w.store.readFailure = none) :
    (liftStore (Store.reading f)).exec w = (.ok (f w.store), w) := by
  rw [Act.exec_liftStore, Store.reading_of_none f hr]

end UserDirectory.Account
