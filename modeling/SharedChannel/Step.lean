import SharedChannel.Failure

/-!
Steps over a state. A `Step` changes a state and ends with a result or a failure, and what it
changed before a failure stays changed. `perform` runs a step, and the lemmas on it give the outcome
of each way to put steps together.
-/

namespace SharedChannel

abbrev Step (σ : Type) := ExceptT Failure (StateM σ)

namespace Step

variable {σ α β : Type}

/-- The outcome of a step, and the state that it leaves. -/
def perform (a : Step σ α) (x : σ) : Except Failure α × σ := Id.run (a.run.run x)

/-- A result or a failure that is known already. -/
def ofExcept : Except Failure α → Step σ α
  | .ok r => pure r
  | .error f => throw f

/-- The outcome of a step as a value. -/
def attempt (a : Step σ α) : Step σ (Except Failure α) :=
  tryCatch (Except.ok <$> a) fun f => pure (.error f)

@[simp] theorem perform_pure (r : α) (x : σ) : perform (pure r) x = (.ok r, x) := rfl

@[simp] theorem perform_throw (f : Failure) (x : σ) :
    perform (throw f : Step σ α) x = (.error f, x) := rfl

@[simp] theorem perform_get (x : σ) : perform get x = (.ok x, x) := rfl

@[simp] theorem perform_set (x y : σ) : perform (set y) x = (.ok (), y) := rfl

@[simp] theorem perform_modify (g : σ → σ) (x : σ) :
    perform (modify g) x = (.ok (), g x) := rfl

@[simp] theorem perform_ofExcept (r : Except Failure α) (x : σ) :
    perform (ofExcept r) x = (r, x) := by cases r <;> rfl

/-- What follows a failure is not done. -/
theorem perform_bind (a : Step σ α) (k : α → Step σ β) (x : σ) :
    perform (a >>= k) x =
      match a.perform x with
      | (.ok r, y) => (k r).perform y
      | (.error f, y) => (.error f, y) := by
  rcases h : a.perform x with ⟨r, y⟩
  have h' : a x = (r, y) := h
  cases r <;> simp [perform, bind, ExceptT.run, ExceptT.bind, ExceptT.mk, ExceptT.bindCont,
    StateT.run, StateT.bind, h', pure, Id.run]
  rfl

theorem perform_map (g : α → β) (a : Step σ α) (x : σ) :
    perform (g <$> a) x = ((a.perform x).1.map g, (a.perform x).2) := by
  rcases h : a.perform x with ⟨r, y⟩
  have h' : a x = (r, y) := h
  cases r <;> simp [perform, Functor.map, ExceptT.run, ExceptT.map, ExceptT.mk, bind, StateT.run,
    StateT.bind, h', pure, Id.run, Except.map] <;> rfl

/-- A failure that is caught leaves the state as the step left it. -/
@[simp] theorem perform_attempt (a : Step σ α) (x : σ) :
    perform a.attempt x = (.ok (a.perform x).1, (a.perform x).2) := by
  rcases h : a.perform x with ⟨r, y⟩
  have h' : a x = (r, y) := h
  cases r <;> simp [attempt, perform, tryCatch, tryCatchThe, MonadExceptOf.tryCatch, Functor.map,
    bind, ExceptT.run, ExceptT.tryCatch, ExceptT.map, ExceptT.mk, StateT.run, StateT.bind, h', pure,
    ExceptT.pure, Id.run] <;> rfl

end Step

end SharedChannel
