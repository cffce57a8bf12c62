import SharedChannel.Proofs.Session

/-!
# The store is read once

The settings of the process are read when a client is made of them and at no other time. Everything
that connects a client or uses it is `Action.Storeless`: it comes to the same whatever is in the
store, which stays as it is. There is one lemma for each way to put actions together, and one for
each function from the token sources to a session of a client.
-/

namespace SharedChannel

/-- The world with another store. -/
def World.withStore (w : World) (p : Settings.Store) : World := { w with store := p }

namespace Action

variable {α β : Type}

/-- The action comes to the same with any store, and it leaves the store alone. -/
def Storeless (a : Action α) : Prop :=
  ∀ s w p, a.perform s (w.withStore p) = ((a.perform s w).1, (a.perform s w).2.withStore p)

namespace Storeless

variable {a : Action α} {k : α → Action β}

lemma pure (x : α) : Storeless (Pure.pure x) := fun _ _ _ => rfl

lemma throw (f : Failure) : Storeless (throw f : Action α) := fun _ _ _ => rfl

lemma read : Storeless (MonadReader.read : Action Surroundings) := fun _ _ _ => rfl

lemma modify {g : World → World} (h : ∀ w p, g (w.withStore p) = (g w).withStore p) :
    Storeless (modify g : Action Unit) :=
  fun _ w p => Prod.ext rfl (h w p)

lemma emit (e : Effect) : Storeless (Action.emit e) := modify fun _ _ => rfl

lemma record (level : Logging.Level) (logger message : String) :
    Storeless (Action.record level logger message) := modify fun _ _ => rfl

lemma ofExcept (r : Except Failure α) : Storeless (Action.ofExcept r) := by
  intro s w p
  rw [perform_ofExcept, perform_ofExcept]

lemma raise (f : Option Failure) : Storeless (Action.raise f) := by
  cases f with
  | none => exact pure ()
  | some f => exact throw f

lemma bind (ha : Storeless a) (hk : ∀ x, Storeless (k x)) : Storeless (a >>= k) := by
  intro s w p
  have hstore := ha s w p
  rcases hrun : a.perform s w with ⟨r | x, v⟩
  · rw [hrun] at hstore
    rw [perform_bind_of_error hrun, perform_bind_of_error hstore]
  · rw [hrun] at hstore
    rw [perform_bind_of_ok hrun, perform_bind_of_ok hstore]
    exact hk x s v p

/-- What is read off the world may be anything but the store. -/
lemma bind_get {k : World → Action β} (hk : ∀ w p, k (w.withStore p) = k w)
    (h : ∀ w, Storeless (k w)) : Storeless (get >>= k) := by
  intro s w p
  rw [perform_bind_of_ok (perform_get ..), perform_bind_of_ok (perform_get ..), hk]
  exact h w s w p

lemma throw_bind (f : Failure) : Storeless (MonadExcept.throw f >>= k : Action β) :=
  fun _ _ _ => rfl

lemma map (g : α → β) (ha : Storeless a) : Storeless (g <$> a) := by
  intro s w p
  rw [perform_map, perform_map, ha s w p]

lemma attempt (ha : Storeless a) : Storeless (Action.attempt a) := by
  intro s w p
  rw [perform_attempt, perform_attempt, ha s w p]

lemma pass (takes : Value) : Storeless (Action.pass takes) := by
  intro s w p
  rw [perform_pass, perform_pass]
  rfl

lemma openChannel (e : Effect) : Storeless (Action.openChannel e) :=
  .bind (emit e) fun _ => .bind read fun _ => .bind (raise _) fun _ =>
    .bind (modify fun _ _ => rfl) fun _ => .bind_get (fun _ _ => rfl) fun _ => pure _

lemma closeChannel (channel : ℕ) : Storeless (Action.closeChannel channel) :=
  .bind_get (fun _ _ => rfl) fun _ => .bind (emit _) fun _ => .bind read fun _ =>
    .bind (raise _) fun _ => modify fun _ _ => rfl

lemma mapM {ι : Type} {f : ι → Action α} (h : ∀ i, Storeless (f i)) (items : List ι) :
    Storeless (items.mapM f) := by
  induction items with
  | nil => exact pure []
  | cons i rest ih =>
    rw [List.mapM_cons]
    exact bind (h i) fun x => bind ih fun xs => pure (x :: xs)

end Storeless

end Action

section Calling

lemma TokenSource.ask_storeless (t : TokenSource) : t.ask.Storeless :=
  .bind_get (fun _ _ => rfl) fun _ => .bind (.emit _) fun _ => .ofExcept _

lemma Provider.entries_storeless (p : Provider) : p.entries.Storeless := by
  rw [entries]
  split
  · exact .pure []
  · exact .bind (TokenSource.ask_storeless _) fun _ => .bind (.ofExcept _) fun _ => .pure _

lemma Provider.authorize_storeless (p : Option Provider) (d : CallDetails) :
    (authorize p d).Storeless := by
  cases p with
  | none => exact .throw _
  | some p => exact .bind p.entries_storeless fun _ => .pure _

lemma Provider.plugin_storeless {α : Type} (p : Provider) (method : Option String)
    {callback : PluginAnswer → Action α} (h : ∀ answer, (callback answer).Storeless) :
    (p.plugin method callback).Storeless := by
  refine .bind (.attempt p.entries_storeless) fun r => ?_
  cases r with
  | ok entries => exact h _
  | error f =>
    dsimp only
    split
    · exact .bind (.ofExcept _) fun _ => .bind (.record _ _ _) fun _ => h _
    · exact .throw f

lemma Interceptor.around_storeless {α : Type} (i : Interceptor) (kind : CallKind) (d : CallDetails)
    {rest : CallDetails → Action α} (h : ∀ d, (rest d).Storeless) :
    (i.around kind d rest).Storeless := by
  cases i with
  | other text => exact h d
  | authorizing p => exact .bind (Provider.authorize_storeless p d) h
  | custom label kinds add failure =>
    rw [around]
    split
    · exact .bind (.emit _) fun _ => .bind (.raise failure) fun _ => h _
    · exact h d

namespace Channel

lemma grantedEntries_storeless (p : Provider) (d : CallDetails) :
    (grantedEntries p d).Storeless := by
  refine .bind .read fun _ => .bind (.attempt (p.plugin_storeless _ fun _ => .pure _)) fun r => ?_
  rcases r with f | entries | f
  · exact .throw _
  · exact .pure entries
  · exact .bind (.emit _) fun _ => .throw _

lemma pluginMetadata_storeless (c : Channel) (d : CallDetails) :
    (c.pluginMetadata d).Storeless := by
  rw [pluginMetadata]
  split
  · exact .pure none
  · exact .pure (some [])
  · exact .map some (grantedEntries_storeless _ d)

lemma transmit_storeless (c : Channel) (kind : CallKind) (request : Value) (d : CallDetails) :
    (c.transmit kind request d).Storeless := by
  refine .bind .read fun _ => .bind_get (fun _ _ => rfl) fun w => ?_
  split
  · exact .throw_bind _
  · exact .bind (pluginMetadata_storeless c d) fun _ => .bind (.emit _) fun _ => .ofExcept _

lemma through_storeless (c : Channel) (kind : CallKind) (request : Value)
    (interceptors : List Interceptor) (d : CallDetails) :
    (c.through kind request interceptors d).Storeless := by
  induction interceptors generalizing d with
  | nil => exact transmit_storeless c kind request d
  | cons i rest ih => exact i.around_storeless kind d ih

end Channel

end Calling

section Dialing

variable (host : String)

lemma Security.resolve_storeless (domain tls roots : Value) :
    (resolve domain tls roots).Storeless := by
  have hemit : (do
      Action.emit (.tlsCredentials roots)
      Action.raise (← read).tlsFailure
      return Security.tls roots).Storeless :=
    .bind (.emit _) fun _ => .bind .read fun _ => .bind (.raise _) fun _ => .pure _
  rw [resolve]
  split
  · exact .pure _
  · dsimp only
    split
    · exact .throw_bind _
    · split
      · refine .bind (.ofExcept _) fun valid => ?_
        split
        · exact .throw_bind _
        · exact hemit
      · exact hemit

namespace Dial

lemma openSecure_storeless (roots : Value) (d : DialSettings) :
    (openSecure host roots d).Storeless := by
  rw [openSecure]
  split
  · exact .bind (.emit _) fun _ => .bind .read fun _ => .bind (.raise _) fun _ =>
      .bind (.emit _) fun _ => .bind .read fun _ => .bind (.raise _) fun _ =>
        .bind (.pure _) fun _ => .bind (.openChannel _) fun _ => .pure _
  · exact .bind (.pure _) fun _ => .bind (.openChannel _) fun _ => .pure _

lemma openPlain_storeless (d : DialSettings) : (openPlain host d).Storeless := by
  rw [openPlain]
  split
  · split
    · exact .throw_bind _
    · exact .bind (.openChannel _) fun _ => .pure _
  · exact .bind (.openChannel _) fun _ => .pure _

lemma awaitReady_storeless (channel : ℕ) (budget : Value) :
    (awaitReady host channel budget).Storeless := by
  have hwait : (wait channel budget).Storeless :=
    .bind (.emit _) fun _ => .bind (.emit _) fun _ => .bind .read fun _ =>
      .bind (.pass _) fun _ => .raise _
  refine .bind (.attempt hwait) fun r => ?_
  cases r with
  | ok u => exact .pure ()
  | error f =>
    dsimp only
    split
    · exact .bind (.closeChannel channel) fun _ => .bind (.ofExcept _) fun _ =>
        .bind (.record _ _ _) fun _ => .throw f
    · exact .throw f

lemma intercept_storeless (c : Channel) (around : List Interceptor) :
    (intercept c around).Storeless := by
  rw [intercept]
  split
  · exact .pure c
  · refine .bind (.emit _) fun _ => ?_
    split
    · exact .throw_bind _
    · exact .bind .read fun _ => .bind (.raise _) fun _ => .pure _

lemma dial_storeless (options : List DialOption) (budget : Value) :
    (dial host options budget).Storeless := by
  have hestablish : ∀ d, (establish host d).Storeless := by
    intro d
    rw [establish]
    split
    · exact .throw _
    · exact openSecure_storeless host _ d
    · exact openPlain_storeless host d
  have hfinish : ∀ d c, (finish host d budget c).Storeless := by
    intro d c
    refine .bind (.record _ _ _) fun _ => ?_
    dsimp only
    split
    · exact .bind (awaitReady_storeless host _ budget) fun _ => intercept_storeless c _
    · exact intercept_storeless c _
  rw [dial_eq]
  exact .bind (hestablish _) (hfinish _)

end Dial

end Dialing

lemma Initializer.run_storeless (i : Initializer) (origin : String) (budget : Value) :
    (i.run origin budget).Storeless := by
  cases i with
  | personal token =>
    rw [run]
    dsimp only
    split
    · exact .throw_bind _
    · exact .bind (.record _ _ _) fun _ => .pure _
  | custom label takes outcome =>
    exact .bind (.emit _) fun _ => .bind (.pass takes) fun _ => .ofExcept outcome

namespace Client

section Building

variable (e : Endpoint)

lemma obtainSource_storeless (x : ClientSettings) (timeout : Value) (deadline : Option Binary64) :
    (obtainSource e x timeout deadline).Storeless := by
  rw [obtainSource]
  cases x.initializer with
  | none => exact .pure none
  | some i =>
    refine .bind_get (fun _ _ => rfl) fun w => ?_
    refine .bind (i.run_storeless _ _) fun source => ?_
    cases deadline with
    | none => exact .pure source
    | some moment =>
      refine .bind_get (fun _ _ => rfl) fun w => ?_
      split
      · exact .bind (.record _ _ _) fun _ => .throw_bind _
      · exact .pure source

lemma newConnection_storeless (source : Option TokenSource) (extra : List DialOption)
    (budget : Value) : (newConnection e source extra budget).Storeless :=
  .bind (Security.resolve_storeless _ _ _) fun _ => Dial.dial_storeless _ _ _

lemma buildStubs_storeless (c : Channel) : (buildStubs e c).Storeless := by
  have hstub : ∀ service, (buildStub c service).Storeless := fun service =>
    .bind .read fun _ => .bind (.ofExcept _) fun _ => .bind (.emit _) fun _ =>
      .bind (.raise _) fun _ => .pure _
  refine .bind (.attempt (.mapM hstub Service.all)) fun r => ?_
  cases r with
  | ok stubs => exact .pure stubs
  | error f =>
    dsimp only
    split
    · exact .bind (.ofExcept _) fun _ => .bind (.record _ _ _) fun _ =>
        .bind (.closeChannel _) fun _ => .throw f
    · exact .throw f

/-- Connecting has nothing to do with the settings of the process. -/
theorem connect_storeless (options : List ClientOption) (timeout : Value) :
    (connect e options timeout).Storeless := by
  refine .bind (.ofExcept _) fun duration => .bind_get (fun _ _ => rfl) fun w => ?_
  refine .bind (obtainSource_storeless e _ timeout _) fun source => ?_
  refine .bind (.record _ _ _) fun _ => .bind_get (fun _ _ => rfl) fun w => ?_
  refine .bind (newConnection_storeless e source _ _) fun c => ?_
  exact .bind (buildStubs_storeless e c) fun _ => .bind (.record _ _ _) fun _ => .pure _

end Building

lemma close_storeless (c : Client) : c.close.Storeless := by
  rw [close]
  split
  · exact .throw_bind _
  · split
    · exact .pure c
    · split
      · exact .throw_bind _
      · exact .bind (.closeChannel _) fun _ => .bind (.record _ _ _) fun _ => .pure _

lemma use_storeless (c : Client) (u : Use) : (c.use u).Storeless := by
  cases u with
  | close => exact .bind c.close_storeless fun _ => .pure _
  | call accessor call =>
    refine .bind (.ofExcept _) fun channel => ?_
    exact .bind (channel.through_storeless _ _ _ _) fun _ => .pure _

end Client

/-- Two observed uses that differ in nothing but the store of their worlds. -/
structure Observation.SameButStore {ρ : Type} (o o' : Observation ρ) : Prop where
  outcome : o.outcome = o'.outcome
  effects : o.effects = o'.effects
  before : o'.before = o.before.withStore o'.before.store
  after : o'.after = o.after.withStore o'.after.store

/-- A client is used in the same way whatever the settings of the process are. -/
theorem Client.session_sameButStore (s : Surroundings) (c : Client) (w : World)
    (p : Settings.Store) (uses : List Use) :
    List.Forall₂ Observation.SameButStore (session Client.use s c w uses)
      (session Client.use s c (w.withStore p) uses) := by
  let R : Client × World → Client × World → Prop := fun x y =>
    x.1 = y.1 ∧ y.2 = x.2.withStore p
  refine forall₂_session (R := R) Client.use s ?_ ⟨rfl, rfl⟩
  rintro x w y _ u - ⟨rfl, rfl⟩
  have hstore := x.use_storeless u s w p
  have houtcome := congrArg Prod.fst hstore
  have hworld := congrArg Prod.snd hstore
  refine ⟨⟨?_, ?_, rfl, ?_⟩, ?_, hworld⟩
  · exact congrArg (Except.map Prod.snd) houtcome.symm
  · rw [Observation.effects, Observation.effects, observe, observe, hworld]
    rfl
  · rw [observe, observe, hworld]
    rfl
  · exact congrArg (afterUse x) houtcome.symm

end SharedChannel
