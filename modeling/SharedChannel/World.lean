import SharedChannel.Effect
import SharedChannel.Logging.Record
import SharedChannel.Service
import SharedChannel.Settings
import SharedChannel.Transport
import SharedChannel.Value.Duration
import SharedChannel.Value.Writing

/-!
The world that a run acts on. `Surroundings` says how the collaborators behave, `World` holds what
has happened so far, and an `Action` changes the world and ends with a result or a failure. What
was done before a failure stays done.
-/

namespace SharedChannel

/-- How long a channel takes to become ready, and why it does not. -/
structure Readiness where
  takes : Value := .int 0
  failure : Option Failure := none
deriving DecidableEq, Repr, Inhabited

/-- The behaviour of the collaborators during a run. Whatever a run asks of them may fail. -/
structure Surroundings where
  /-- Why there are no TLS credentials. -/
  tlsFailure : Option Failure := none
  /-- Why a provider cannot become call credentials. -/
  callCredentialsFailure : Option Failure := none
  /-- Why call credentials and TLS credentials cannot be put together. -/
  compositionFailure : Option Failure := none
  channelFailure : Option Failure := none
  ready : Readiness := {}
  /-- What becomes of each attempt to close a channel; later attempts succeed. -/
  closeFailures : List (Option Failure) := []
  /-- Why interceptors cannot be put around a channel, if all of them are some. -/
  wrapFailure : Option Failure := none
  supply : Supply := {}
  transport : Transport := .plain
deriving Inhabited

structure World where
  store : Settings.Store := {}
  clock : Binary64 := .ofInt 1000
  /-- Channels are numbered from one in the order of opening. -/
  opened : Nat := 0
  closed : List Nat := []
  trace : List Effect := []
  log : List Logging.Record := []
deriving DecidableEq, Repr, Inhabited

namespace World

/-- How often a token source was asked. -/
def asks (w : World) (source : SourceName) : Nat := w.trace.countP (Effect.isAsk source)

def closeAttempts (w : World) : Nat := w.trace.countP Effect.isClose

def isClosed (w : World) (channel : Nat) : Bool := w.closed.contains channel

end World

abbrev Action := ReaderT Surroundings (Step World)

namespace Action

variable {α β : Type}

/-- Runs an action in a world. -/
def perform (a : Action α) (s : Surroundings) (w : World) : Except Failure α × World :=
  Step.perform (a.run s) w

def emit (e : Effect) : Action Unit := modify fun w => { w with trace := w.trace ++ [e] }

def record (level : Logging.Level) (logger message : String) : Action Unit :=
  modify fun w => { w with log := w.log ++ [⟨logger, level.number, message⟩] }

/-- The outcome of an action as a value. -/
def attempt (a : Action α) : Action (Except Failure α) := fun s => Step.attempt (a.run s)

def ofExcept (r : Except Failure α) : Action α := fun _ => Step.ofExcept r

/-- Raises the failure, if there is one. -/
def raise : Option Failure → Action Unit
  | some f => throw f
  | none => pure ()

/-- A step of the process within a run. -/
def settings (step : Step Settings.Store α) : Action α := do
  let (r, p) := step.perform (← get).store
  modify fun w => { w with store := p }
  ofExcept r

/-- Lets time pass. -/
def pass (takes : Value) : Action Unit := do
  match ← ofExcept takes.duration? with
  | some d => modify fun w => { w with clock := w.clock.add d }
  | none => pure ()

/-- Announces a channel and opens it, unless the collaborators refuse. -/
def openChannel (announcement : Effect) : Action Nat := do
  emit announcement
  raise (← read).channelFailure
  modify fun w => { w with opened := w.opened + 1 }
  return (← get).opened

/-- Tries to close a channel; if that fails it stays open. -/
def closeChannel (channel : Nat) : Action Unit := do
  let attempts := (← get).closeAttempts
  emit (.close channel)
  raise ((← read).closeFailures[attempts]?.join)
  modify fun w => { w with closed := w.closed ++ [channel] }

section Outcomes

variable (s : Surroundings) (w : World)

@[simp] theorem perform_pure (r : α) : perform (pure r) s w = (.ok r, w) := rfl

@[simp] theorem perform_throw (f : Failure) :
    perform (throw f : Action α) s w = (.error f, w) := rfl

@[simp] theorem perform_get : perform get s w = (.ok w, w) := rfl

@[simp] theorem perform_read : perform read s w = (.ok s, w) := rfl

@[simp] theorem perform_modify (g : World → World) :
    perform (modify g) s w = (.ok (), g w) := rfl

theorem perform_bind (a : Action α) (k : α → Action β) :
    perform (a >>= k) s w =
      match a.perform s w with
      | (.ok r, w') => (k r).perform s w'
      | (.error f, w') => (.error f, w') := by
  simp only [perform, ReaderT.run_bind, Step.perform_bind]
  rcases Step.perform (a.run s) w with ⟨_ | _, _⟩ <;> rfl

theorem perform_map (g : α → β) (a : Action α) :
    perform (g <$> a) s w = ((a.perform s w).1.map g, (a.perform s w).2) :=
  Step.perform_map g (a.run s) w

@[simp] theorem perform_attempt (a : Action α) :
    perform a.attempt s w = (.ok (a.perform s w).1, (a.perform s w).2) :=
  Step.perform_attempt (a.run s) w

@[simp] theorem perform_ofExcept (r : Except Failure α) : perform (ofExcept r) s w = (r, w) :=
  Step.perform_ofExcept r w

@[simp] theorem perform_emit (e : Effect) :
    perform (emit e) s w = (.ok (), { w with trace := w.trace ++ [e] }) := rfl

@[simp] theorem perform_record (level : Logging.Level) (logger message : String) :
    perform (record level logger message) s w =
      (.ok (), { w with log := w.log ++ [⟨logger, level.number, message⟩] }) := rfl

@[simp] theorem perform_raise_some (f : Failure) :
    perform (raise (some f)) s w = (.error f, w) := rfl

@[simp] theorem perform_raise_none : perform (raise none) s w = (.ok (), w) := rfl

/-- A step of the process touches the store alone. -/
@[simp] theorem perform_settings (step : Step Settings.Store α) :
    perform (settings step) s w =
      ((step.perform w.store).1, { w with store := (step.perform w.store).2 }) := by
  simp [settings, perform_bind]

theorem perform_openChannel (e : Effect) :
    perform (openChannel e) s w =
      match s.channelFailure with
      | some f => (.error f, { w with trace := w.trace ++ [e] })
      | none =>
        (.ok (w.opened + 1), { w with trace := w.trace ++ [e], opened := w.opened + 1 }) := by
  cases h : s.channelFailure <;> simp [openChannel, perform_bind, perform_map, Except.map, h]

theorem perform_closeChannel (channel : Nat) :
    perform (closeChannel channel) s w =
      match s.closeFailures[w.closeAttempts]?.join with
      | some f => (.error f, { w with trace := w.trace ++ [.close channel] })
      | none =>
        (.ok (), { w with
          trace := w.trace ++ [.close channel]
          closed := w.closed ++ [channel] }) := by
  cases h : s.closeFailures[w.closeAttempts]?.join <;> simp [closeChannel, perform_bind, h]

end Outcomes

end Action

end SharedChannel
