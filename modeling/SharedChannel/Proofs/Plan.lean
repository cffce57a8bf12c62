import SharedChannel.Proofs.Dialing
import SharedChannel.Proofs.StubOutcomes

/-!
# The plan of a client

What building a client does, as a list of stages that is read off the options, the endpoint and the
behaviour of the collaborators. Each function on the way has one lemma that says which stages it
follows; `Client.connect_follows` puts them together.
-/

namespace SharedChannel

namespace Initializer

def outcome : Initializer → Except Failure (Option TokenSource)
  | personal token =>
    if token.truthy then .ok (some (.fixed .personal { accessToken := token }))
    else .error .emptyPersonalToken
  | custom _ takes outcome => do
    let _ ← takes.duration?
    outcome

def effects (origin : String) (budget : Value) : Initializer → List Effect
  | personal _ => []
  | custom label _ _ => [.initialization label origin budget]

def clockAfter (clock : Binary64) : Initializer → Binary64
  | personal _ => clock
  | custom _ takes _ => takes.clockAfter clock

lemma perform_run (i : Initializer) (origin : String) (budget : Value) (s : Surroundings)
    (w : World) :
    ∃ log, (i.run origin budget).perform s w =
      (i.outcome, { w with
        trace := w.trace ++ i.effects origin budget
        clock := i.clockAfter w.clock
        log }) := by
  cases i with
  | personal token =>
    cases h : token.truthy with
    | false => exact ⟨w.log, by simp [run, outcome, effects, clockAfter, h, Action.perform_bind]⟩
    | true =>
      simp only [run, outcome, effects, clockAfter, h, Bool.not_true, Bool.false_eq_true, if_false,
        if_true, List.append_nil]
      rw [Action.perform_bind_of_ok (Action.perform_record ..)]
      exact ⟨_, rfl⟩
  | custom label takes result =>
    refine ⟨w.log, ?_⟩
    simp only [run, outcome, effects, clockAfter, Action.perform_bind, Action.perform_emit,
      Action.perform_pass, Action.perform_ofExcept]
    cases takes.duration? <;> rfl

end Initializer

/-- Loading and building the stub of a service on a channel. -/
def Service.stage (supply : Supply) (channel : Nat) (service : Service) : Stage where
  phase := .stub
  effects :=
    if (supply.outcome service).isConstructed then
      [.stub channel service.path.toText service.stub]
    else []
  failure := (supply.outcome service).failure? service

namespace Client

/-- The moment by which the initializer has to end and the channel to be ready. -/
def deadlineOf (timeout : Value) (clock : Binary64) : Option Binary64 :=
  match timeout.duration? with
  | .ok duration => duration.map clock.add
  | .error _ => none

def timingStage (timeout : Value) : Stage where
  phase := .timing
  failure := failureOf timeout.duration?

def initializationStage (origin : String) (budget : Value) : Option Initializer → Stage
  | none => { phase := .initialization }
  | some i =>
    { phase := .initialization, effects := i.effects origin budget, failure := failureOf i.outcome }

def deadlineStage (deadline : Option Binary64) (clock : Binary64) : Option Initializer → Stage
  | none => { phase := .deadline }
  | some i =>
    { phase := .deadline
      failure :=
        if deadline.any (i.clockAfter clock).atLeast then some .initializationTimeout else none }

def transportStage (e : Endpoint) (failure : Option Failure) : Stage where
  phase := .transport
  effects := if e.isTls && e.domain.truthy then [.tlsCredentials .none] else []
  failure :=
    if e.isTls then if e.domain.truthy then failure else some .missingServerDomain else none

def ownSecurity (e : Endpoint) : Security := if e.isTls then .tls .none else .plaintext

/-- The token source that an initializer gives, if it gives one. -/
def sourceOf (i : Option Initializer) : Option TokenSource :=
  match i with
  | none => none
  | some i =>
    match i.outcome with
    | .ok source => source
    | .error _ => none

/-- The provider that the client makes for itself. -/
def ownProvider (e : Endpoint) (options : List ClientOption) : Provider :=
  ⟨.own, e.tls, sourceOf (ClientOption.lastAuth options)⟩

/-- The dial options of a client: its own security and provider, then those of the caller. -/
def allDialOptions (e : Endpoint) (options : List ClientOption) : List DialOption :=
  DialOption.withMandatory (some (ownSecurity e)) (some (ownProvider e options))
    (ClientOption.dialOptions options)

def clockAfter (clock : Binary64) (i : Option Initializer) : Binary64 :=
  match i with
  | some i => i.clockAfter clock
  | none => clock

def stubsOn (c : Channel) : List (String × Stub) :=
  Service.all.map fun service => (service.accessor, ⟨service, c⟩)

/-- A client as it is built: every stub is on its channel, and no part is lost. -/
structure Intact (c : Client) : Prop where
  stubs : c.stubs = stubsOn c.channel
  lost : c.lost = []

/-- The stages of building a client. -/
def plan (e : Endpoint) (options : List ClientOption) (timeout : Value) (s : Surroundings)
    (w : World) : List Stage :=
  let i := ClientOption.lastAuth options
  let deadline := deadlineOf timeout w.clock
  [timingStage timeout, initializationStage e.origin (remaining deadline w.clock) i,
    deadlineStage deadline w.clock i, transportStage e s.tlsFailure] ++
  Dial.stages e.host (DialSettings.ofOptions (allDialOptions e options)) s
    (remaining deadline (clockAfter w.clock i)) (w.opened + 1) ++
  Service.all.map (Service.stage s.supply (w.opened + 1))

/-- What building does once it has its token source. -/
def proceed (e : Endpoint) (options : List ClientOption) (deadline : Option Binary64) :
    Action Client := do
  let source := sourceOf (ClientOption.lastAuth options)
  Action.record .debug logger (summary e (.ofOptions options) source)
  let channel ← newConnection e source (ClientOption.dialOptions options)
    (remaining deadline (← get).clock)
  let stubs ← buildStubs e channel
  Action.record .info logger ("Client ready for " ++ e.host)
  return { channel, stubs }

/-- The stages behind the token source. -/
def laterStages (e : Endpoint) (options : List ClientOption) (budget : Value) (s : Surroundings)
    (number : Nat) : List Stage :=
  transportStage e s.tlsFailure ::
    Dial.stages e.host (.ofOptions (allDialOptions e options)) s budget number ++
    Service.all.map (Service.stage s.supply number)

section Following

variable {channel : Nat} {closing : Option Failure} {s : Surroundings} {w v : World}

lemma initializationStage_tidy (origin : String) (budget : Value) (i : Option Initializer) :
    (initializationStage origin budget i).Tidy := by
  rcases i with _ | _ | _ <;>
    simp [Stage.Tidy, initializationStage, Initializer.effects, Effect.phase?]

lemma deadlineStage_tidy (deadline : Option Binary64) (clock : Binary64) (i : Option Initializer) :
    (deadlineStage deadline clock i).Tidy := by
  cases i <;> simp [Stage.Tidy, deadlineStage]

lemma transportStage_tidy (e : Endpoint) (failure : Option Failure) :
    (transportStage e failure).Tidy := by
  rw [Stage.Tidy, transportStage]
  split <;> simp [Effect.phase?]

@[simp] lemma initializationStage_phase (origin : String) (budget : Value)
    (i : Option Initializer) : (initializationStage origin budget i).phase = .initialization := by
  cases i <;> rfl

@[simp] lemma deadlineStage_phase (deadline : Option Binary64) (clock : Binary64)
    (i : Option Initializer) : (deadlineStage deadline clock i).phase = .deadline := by
  cases i <;> rfl

lemma stage_tidy (supply : Supply) (number : Nat) (service : Service) :
    (service.stage supply number).Tidy := by
  rw [Stage.Tidy, Service.stage]
  dsimp only
  split <;> simp [Effect.phase?]

@[simp] lemma stage_phase (supply : Supply) (number : Nat) (service : Service) :
    (service.stage supply number).phase = .stub := rfl

@[simp] lemma isOverlong_remaining (deadline : Option Binary64) (clock : Binary64) :
    (remaining deadline clock).isOverlong = false := by
  cases deadline <;> rfl

/-- The token source is there if the initializer gives one before the deadline. The initializer is
told how much time there is until then. -/
lemma perform_obtainSource (e : Endpoint) (settings : ClientSettings) (timeout : Value)
    (deadline : Option Binary64) :
    ∃ log, (obtainSource e settings timeout deadline).perform s w =
      match settings.initializer with
      | none => (.ok none, w)
      | some i =>
        (match i.outcome with
          | .error f => .error f
          | .ok source =>
            if deadline.any (i.clockAfter w.clock).atLeast then .error .initializationTimeout
            else .ok source,
          { w with
            trace := w.trace ++ i.effects e.origin (remaining deadline w.clock)
            clock := i.clockAfter w.clock
            log }) := by
  rw [obtainSource]
  cases settings.initializer with
  | none => exact ⟨w.log, rfl⟩
  | some i =>
    dsimp only
    obtain ⟨log, hrun⟩ := i.perform_run e.origin (remaining deadline w.clock) s w
    rw [Action.perform_bind_of_ok (Action.perform_get s w)]
    cases ho : i.outcome with
    | error f =>
      rw [ho] at hrun
      exact ⟨log, Action.perform_bind_of_error hrun⟩
    | ok source =>
      rw [ho] at hrun
      rw [Action.perform_bind_of_ok hrun]
      cases deadline with
      | none => exact ⟨log, rfl⟩
      | some d =>
        dsimp only
        rw [Action.perform_bind_of_ok (Action.perform_get s _), Option.any_some]
        dsimp only
        split
        · rw [Action.perform_bind_of_ok (Action.perform_record ..)]
          exact ⟨_, rfl⟩
        · exact ⟨log, rfl⟩

lemma obtainSource_follows (e : Endpoint) (settings : ClientSettings) (timeout : Value)
    (deadline : Option Binary64) :
    Follows .ofClient channel closing
      [initializationStage e.origin (remaining deadline w.clock) settings.initializer,
        deadlineStage deadline w.clock settings.initializer] w
      ((obtainSource e settings timeout deadline).perform s w) := by
  obtain ⟨log, hrun⟩ := perform_obtainSource (s := s) (w := w) e settings timeout deadline
  rw [hrun]
  cases settings.initializer with
  | none => exact .idle nofun (.idle nofun (.nil rfl rfl rfl))
  | some i =>
    dsimp only
    cases ho : i.outcome with
    | error f => exact .error (by simp [initializationStage, ho]) rfl rfl rfl rfl
    | ok source =>
      refine .cons (v := { w with
        trace := w.trace ++ i.effects e.origin (remaining deadline w.clock)
        clock := i.clockAfter w.clock
        log }) (by simp [initializationStage, ho]) nofun rfl rfl rfl ?_
      dsimp only
      split
      case isTrue h =>
        exact .error (by simp [deadlineStage, h]) rfl (by simp [deadlineStage]) rfl rfl
      case isFalse h =>
        exact .ok (by simp [deadlineStage, h]) nofun (by simp [deadlineStage]) rfl rfl

lemma obtainSource_eq_ok {e : Endpoint} {settings : ClientSettings} {timeout : Value}
    {deadline : Option Binary64} {source : Option TokenSource}
    (h : (obtainSource e settings timeout deadline).perform s w = (.ok source, v)) :
    source = sourceOf settings.initializer ∧ v.clock = clockAfter w.clock settings.initializer := by
  obtain ⟨log, hrun⟩ := perform_obtainSource (s := s) (w := w) e settings timeout deadline
  rw [hrun] at h
  cases hi : settings.initializer with
  | none =>
    simp only [hi, Prod.mk.injEq, Except.ok.injEq] at h
    obtain ⟨rfl, rfl⟩ := h
    exact ⟨rfl, rfl⟩
  | some i =>
    simp only [hi, Prod.mk.injEq] at h
    obtain ⟨hsource, rfl⟩ := h
    refine ⟨?_, rfl⟩
    rw [sourceOf]
    cases ho : i.outcome with
    | error f => simp [ho] at hsource
    | ok given =>
      rw [ho] at hsource
      dsimp only at hsource
      split at hsource
      · simp at hsource
      · exact (Except.ok.inj hsource).symm

lemma obtainSource_opens_nothing {e : Endpoint} {settings : ClientSettings} {timeout : Value}
    {deadline : Option Binary64} {source : Option TokenSource}
    (h : (obtainSource e settings timeout deadline).perform s w = (.ok source, v)) :
    v.opened = w.opened ∧ v.closeAttempts = w.closeAttempts := by
  have hrun : Follows .ofClient 0 none
      [initializationStage e.origin (remaining deadline w.clock) settings.initializer,
        deadlineStage deadline w.clock settings.initializer] w (.ok source, v) :=
    h ▸ obtainSource_follows e settings timeout deadline
  constructor
  · rw [hrun.opened, Stage.openings_eq_zero (by simp), Nat.add_zero]
  · refine hrun.closeAttempts_of_ok ?_
    rw [List.forall_mem_cons, List.forall_mem_singleton]
    exact ⟨initializationStage_tidy _ _ _, deadlineStage_tidy _ _ _⟩

lemma perform_resolve (e : Endpoint) :
    (Security.resolve e.domain e.tls .none).perform s w =
      (match (transportStage e s.tlsFailure).failure with
        | some f => .error f
        | none => .ok (ownSecurity e),
        { w with trace := w.trace ++ (transportStage e s.tlsFailure).effects }) := by
  rw [Security.resolve, transportStage, ownSecurity, Endpoint.isTls]
  by_cases htls : e.tls.truthy = true
  · by_cases hdomain : e.domain.truthy = true
    · simp only [htls, hdomain, Bool.not_true, Bool.false_eq_true, if_false, if_true, Bool.and_self]
      change (Action.emit (.tlsCredentials .none) >>= fun _ =>
        Action.raise s.tlsFailure >>= fun _ => pure (Security.tls .none)).perform s w = _
      rw [Action.perform_bind_of_ok (Action.perform_emit ..), Action.perform_bind,
        Action.perform_raise]
      cases s.tlsFailure <;> rfl
    · simp [htls, hdomain, Action.perform_bind]
  · simp [htls]

/-- The endpoint's own security and provider come first, and dialing follows. -/
lemma newConnection_follows (e : Endpoint) (options : List ClientOption) (budget : Value)
    (hbudget : budget.isOverlong = false) (hchannel : channel = w.opened + 1)
    (hclosing : closing = s.closeFailures[w.closeAttempts]?.join) :
    Follows .ofClient channel closing
      (transportStage e s.tlsFailure ::
        Dial.stages e.host (.ofOptions (allDialOptions e options)) s budget channel) w
      ((newConnection e (sourceOf (ClientOption.lastAuth options))
        (ClientOption.dialOptions options) budget).perform s w) := by
  have hresolve := perform_resolve (s := s) (w := w) e
  rw [newConnection]
  cases hf : (transportStage e s.tlsFailure).failure with
  | some f =>
    rw [hf] at hresolve
    rw [Action.perform_bind_of_error hresolve]
    exact .error hf rfl rfl rfl rfl
  | none =>
    rw [hf] at hresolve
    rw [Action.perform_bind_of_ok hresolve]
    refine .cons (v := { w with trace := w.trace ++ (transportStage e s.tlsFailure).effects })
      hf nofun rfl rfl rfl ?_
    refine Dial.dial_follows e.host (allDialOptions e options) budget hbudget hchannel ?_
    rw [hclosing, World.closeAttempts, World.closeAttempts, List.countP_append,
      Stage.countP_isClose_effects (transportStage_tidy e _), Nat.add_zero]

/-- Building a stub: a service whose class is not found has no constructor to call. -/
lemma perform_buildStub (c : Channel) {service : Service} (hservice : service ∈ Service.all) :
    (buildStub c service).perform s w =
      (match (s.supply.outcome service).failure? service with
        | some f => .error f
        | none => .ok (service.accessor, ⟨service, c⟩),
        { w with trace := w.trace ++ (service.stage s.supply c.number).effects }) := by
  have hload := Supply.load_eq (s := s.supply) hservice
  rw [buildStub, Action.perform_bind_of_ok (Action.perform_read s w), Service.stage]
  dsimp only
  rw [hload, Action.perform_bind, Action.perform_ofExcept]
  have hlookup := Supply.lookup_failing s.supply service
  cases houtcome : s.supply.outcome service with
  | absent | missing | broken | classless =>
    simp [Service.Outcome.failure?, Service.Outcome.isConstructed]
  | failing | built =>
    rw [houtcome] at hlookup
    dsimp only
    rw [Action.perform_bind_of_ok (Action.perform_emit ..), hlookup rfl]
    rfl

lemma buildStub_follows (c : Channel) {service : Service} (hservice : service ∈ Service.all) :
    Follows .never channel closing [service.stage s.supply c.number] w
      ((buildStub c service).perform s w) := by
  rw [perform_buildStub c hservice]
  cases hf : (s.supply.outcome service).failure? service with
  | some f => exact .error hf rfl rfl rfl rfl
  | none => exact .ok hf nofun rfl rfl rfl

lemma mapM_buildStub_follows (c : Channel) {services : List Service}
    (hservices : ∀ service ∈ services, service ∈ Service.all) :
    Follows .never channel closing (services.map (Service.stage s.supply c.number)) w
      ((services.mapM (buildStub c)).perform s w) := by
  induction services generalizing w with
  | nil => exact .nil rfl rfl rfl
  | cons service rest ih =>
    obtain ⟨hservice, hrest⟩ := List.forall_mem_cons.mp hservices
    rw [List.mapM_cons, List.map_cons]
    exact Follows.bind (l := [_]) (buildStub_follows c hservice) fun _ _ _ => (ih hrest).bind_pure

lemma buildStubs_follows (e : Endpoint) (c : Channel)
    (hclosing : closing = s.closeFailures[w.closeAttempts]?.join) :
    Follows .ofClient c.number closing (Service.all.map (Service.stage s.supply c.number)) w
      ((buildStubs e c).perform s w) := by
  rw [buildStubs]
  refine .rescue ?_ (mapM_buildStub_follows c fun _ h => h) ?_ ?_
  · intro x hx
    obtain ⟨service, -, rfl⟩ := List.mem_map.mp hx
    exact stage_tidy s.supply c.number service
  · intro stubs v
    exact .nil rfl rfl rfl
  · intro p f v hfirst hv
    obtain ⟨x, hx, rfl, -⟩ := Stage.exists_mem_of_firstFailure hfirst
    obtain ⟨service, -, rfl⟩ := List.mem_map.mp hx
    rw [hclosing, ← hv, stage_phase]
    dsimp only
    have hpass : f.isReportable = false →
        Handles .ofClient c.number (s.closeFailures[v.closeAttempts]?.join) (.stub, f) v
          ((.error (Guard.ofClient.reports .stub f), v) :
            Except Failure (List (String × Stub)) × World) :=
      fun h => .pass h
    cases hordinary : f.isOrdinary with
    | false =>
      have hreport : Guard.ofClient.reports .stub f = f :=
        Guard.reports_ofClient fun _ h => by rw [hordinary] at h; cases h
      rw [Failure.isReportable, hordinary, hreport] at hpass
      exact hpass rfl
    | true =>
      simp only [if_true]
      rw [Action.perform_bind, Action.perform_ofExcept]
      cases hmute : f.isMute with
      | true =>
        have hreport : Guard.ofClient.reports .stub f = f.afterMessage := if_pos hordinary
        rw [Failure.isReportable, hordinary, hmute, hreport] at hpass
        rw [Failure.message_of_mute hmute]
        exact hpass rfl
      | false =>
        have hguard : Guard.ofClient.closes .stub f = true :=
          Failure.isReportable_of_ordinary hordinary hmute
        rw [Failure.message_of_not_mute hmute]
        dsimp only
        rw [Action.perform_bind_of_ok (Action.perform_record ..)]
        refine .close _ hguard fun u => ⟨u.log, ?_⟩
        rw [Guard.reports_of_closes hguard]
        rfl

/-- The channel of a connection has the security and the provider that all options give. -/
lemma newConnection_eq_ok {e : Endpoint} {options : List ClientOption} {budget : Value}
    {c : Channel}
    (h : (newConnection e (sourceOf (ClientOption.lastAuth options))
      (ClientOption.dialOptions options) budget).perform s w = (.ok c, v)) :
    ∃ security, DialOption.lastSecurity (allDialOptions e options) = some security ∧
      c = Dial.channelOf security (.ofOptions (allDialOptions e options)) (w.opened + 1) ∧
      (security = .plaintext → ∀ p,
        DialOption.lastProvider (allDialOptions e options) = some p → p.requiresTls = false) := by
  have hresolve := perform_resolve (s := s) (w := w) e
  rw [newConnection] at h
  cases hf : (transportStage e s.tlsFailure).failure with
  | some f =>
    rw [hf] at hresolve
    rw [Action.perform_bind_of_error hresolve] at h
    simp at h
  | none =>
    rw [hf] at hresolve
    rw [Action.perform_bind_of_ok hresolve] at h
    exact Dial.dial_eq_ok
      (w := { w with trace := w.trace ++ (transportStage e s.tlsFailure).effects }) h

lemma newConnection_closes_nothing {e : Endpoint} {options : List ClientOption} {budget : Value}
    {c : Channel} (hbudget : budget.isOverlong = false)
    (h : (newConnection e (sourceOf (ClientOption.lastAuth options))
      (ClientOption.dialOptions options) budget).perform s w = (.ok c, v)) :
    v.closeAttempts = w.closeAttempts := by
  have hrun := newConnection_follows (s := s) (w := w) e options budget hbudget rfl rfl
  rw [h] at hrun
  refine hrun.closeAttempts_of_ok ?_
  rw [List.forall_mem_cons]
  exact ⟨transportStage_tidy e _, Dial.stages_tidy e.host _ budget _⟩

lemma buildStub_eq_ok {c : Channel} {service : Service} {stub : String × Stub}
    (h : (buildStub c service).perform s w = (.ok stub, v)) :
    stub = (service.accessor, ⟨service, c⟩) := by
  rw [buildStub, Action.perform_bind_of_ok (Action.perform_read s w)] at h
  obtain ⟨_, _, -, h⟩ := Action.perform_bind_eq_ok.mp h
  obtain ⟨_, _, -, h⟩ := Action.perform_bind_eq_ok.mp h
  obtain ⟨_, _, -, h⟩ := Action.perform_bind_eq_ok.mp h
  simpa using (congrArg Prod.fst h).symm

lemma mapM_buildStub_eq_ok {c : Channel} {services : List Service} {stubs : List (String × Stub)}
    (h : (services.mapM (buildStub c)).perform s w = (.ok stubs, v)) :
    stubs = services.map fun service => (service.accessor, ⟨service, c⟩) := by
  induction services generalizing stubs w v with
  | nil => simpa using (congrArg Prod.fst h).symm
  | cons service rest ih =>
    rw [List.mapM_cons] at h
    obtain ⟨stub, _, hstub, h⟩ := Action.perform_bind_eq_ok.mp h
    obtain ⟨others, _, hothers, h⟩ := Action.perform_bind_eq_ok.mp h
    rw [Action.perform_pure, Prod.mk.injEq, Except.ok.injEq] at h
    rw [← h.1, buildStub_eq_ok hstub, ih hothers, List.map_cons]

lemma buildStubs_eq_ok {e : Endpoint} {c : Channel} {stubs : List (String × Stub)}
    (h : (buildStubs e c).perform s w = (.ok stubs, v)) : stubs = stubsOn c := by
  rw [buildStubs, Action.perform_bind_of_ok (Action.perform_attempt ..)] at h
  rcases hbuilt : (Service.all.mapM (buildStub c)).perform s w with ⟨f | built, u⟩
  · rw [hbuilt] at h
    dsimp only at h
    split at h
    · obtain ⟨_, _, -, h⟩ := Action.perform_bind_eq_ok.mp h
      obtain ⟨_, _, -, h⟩ := Action.perform_bind_eq_ok.mp h
      obtain ⟨_, _, -, h⟩ := Action.perform_bind_eq_ok.mp h
      simp at h
    · simp at h
  · rw [hbuilt] at h
    have hstubs : built = stubs := by simpa using congrArg Prod.fst h
    rw [← hstubs, mapM_buildStub_eq_ok hbuilt, stubsOn]

/-- Building has two parts, which share one deadline: the token source, and all that follows. -/
lemma perform_connect_eq (e : Endpoint) (options : List ClientOption) (timeout : Value) :
    (connect e options timeout).perform s w =
      match timeout.duration? with
      | .error f => (.error f, w)
      | .ok duration =>
        let deadline := duration.map w.clock.add
        (obtainSource e (.ofOptions options) timeout deadline >>= fun _ =>
          proceed e options deadline).perform s w := by
  rw [connect]
  cases timeout.duration? with
  | error f => rw [Action.perform_bind_of_error (Action.perform_ofExcept s w _)]
  | ok duration =>
    rw [Action.perform_bind_of_ok (Action.perform_ofExcept s w _),
      Action.perform_bind_of_ok (Action.perform_get s w)]
    dsimp only
    rcases hsource : (obtainSource e (.ofOptions options) timeout
      (duration.map w.clock.add)).perform s w with ⟨f | source, v⟩
    · rw [Action.perform_bind_of_error hsource, Action.perform_bind_of_error hsource]
    · rw [Action.perform_bind_of_ok hsource, Action.perform_bind_of_ok hsource, proceed,
        (obtainSource_eq_ok hsource).1, ClientOption.ofOptions_initializer,
        ClientOption.ofOptions_dialOptions]

lemma proceed_follows (e : Endpoint) (options : List ClientOption) (deadline : Option Binary64)
    (hchannel : channel = w.opened + 1)
    (hclosing : closing = s.closeFailures[w.closeAttempts]?.join) :
    Follows .ofClient channel closing
      (laterStages e options (remaining deadline w.clock) s channel) w
      ((proceed e options deadline).perform s w) := by
  rw [proceed, laterStages]
  rw [Action.perform_bind_of_ok (Action.perform_record ..),
    Action.perform_bind_of_ok (Action.perform_get s _)]
  refine .of_same_history (Follows.bind (l := transportStage e _ :: Dial.stages ..) ?_ ?_)
    rfl rfl rfl
  · exact newConnection_follows e options _ (isOverlong_remaining ..) hchannel hclosing
  · intro c v hc
    obtain ⟨security, -, hopened, -⟩ := newConnection_eq_ok hc
    have hnumber : c.number = channel := by
      rw [hopened, hchannel]
      exact Dial.channelOf_number ..
    have hattempts : closing = s.closeFailures[v.closeAttempts]?.join := by
      rw [newConnection_closes_nothing (isOverlong_remaining ..) hc]
      exact hclosing
    rw [← hnumber, ← List.append_nil (Service.all.map _)]
    refine (buildStubs_follows e c hattempts).bind ?_
    intro stubs u _
    rw [Action.perform_bind_of_ok (Action.perform_record ..)]
    exact .nil rfl rfl rfl

/-- Building a client goes through its plan in order. -/
theorem connect_follows (e : Endpoint) (options : List ClientOption) (timeout : Value)
    (s : Surroundings) (w : World) :
    Follows .ofClient (w.opened + 1) (s.closeFailures[w.closeAttempts]?.join)
      (plan e options timeout s w) w ((connect e options timeout).perform s w) := by
  rw [perform_connect_eq, plan]
  cases hd : timeout.duration? with
  | error f => exact .error (by simp [timingStage, hd]) rfl (by simp [timingStage]) rfl rfl
  | ok duration =>
    have hdeadline : deadlineOf timeout w.clock = duration.map w.clock.add := by
      simp [deadlineOf, hd]
    dsimp only
    rw [← hdeadline, List.append_assoc]
    refine .cons (v := w) (by simp [timingStage, hd]) nofun (by simp [timingStage]) rfl rfl ?_
    rw [← ClientOption.ofOptions_initializer]
    refine Follows.bind (l := [_, _]) (obtainSource_follows e _ timeout _) ?_
    intro source v hsource
    obtain ⟨hopened, hattempts⟩ := obtainSource_opens_nothing hsource
    obtain ⟨-, hclock⟩ := obtainSource_eq_ok hsource
    rw [← hclock, ← hopened, ← hattempts]
    exact proceed_follows e options _ rfl rfl

lemma proceed_eq_ok {e : Endpoint} {options : List ClientOption} {deadline : Option Binary64}
    {c : Client} (h : (proceed e options deadline).perform s w = (.ok c, v)) :
    ∃ security, DialOption.lastSecurity (allDialOptions e options) = some security ∧
      c.channel = Dial.channelOf security (.ofOptions (allDialOptions e options)) (w.opened + 1) ∧
      c.Intact ∧
      (security = .plaintext → ∀ p,
        DialOption.lastProvider (allDialOptions e options) = some p → p.requiresTls = false) := by
  rw [proceed] at h
  rw [Action.perform_bind_of_ok (Action.perform_record ..),
    Action.perform_bind_of_ok (Action.perform_get s _)] at h
  obtain ⟨channel, u, hchannel, h⟩ := Action.perform_bind_eq_ok.mp h
  obtain ⟨stubs, u', hstubs, h⟩ := Action.perform_bind_eq_ok.mp h
  rw [Action.perform_bind_of_ok (Action.perform_record ..), Action.perform_pure, Prod.mk.injEq,
    Except.ok.injEq] at h
  obtain ⟨security, hsecurity, hc, hprovider⟩ := newConnection_eq_ok hchannel
  rw [← h.1]
  exact ⟨security, hsecurity, hc, ⟨buildStubs_eq_ok hstubs, rfl⟩, hprovider⟩

/-- The client that building gives: an intact one, whose channel has the security and the provider
that all options give. -/
theorem connect_eq_ok {e : Endpoint} {options : List ClientOption} {timeout : Value} {c : Client}
    (h : (connect e options timeout).perform s w = (.ok c, v)) :
    ∃ security, DialOption.lastSecurity (allDialOptions e options) = some security ∧
      c.channel = Dial.channelOf security (.ofOptions (allDialOptions e options)) (w.opened + 1) ∧
      c.Intact ∧
      (security = .plaintext → ∀ p,
        DialOption.lastProvider (allDialOptions e options) = some p → p.requiresTls = false) := by
  rw [perform_connect_eq] at h
  cases hd : timeout.duration? with
  | error f => simp [hd] at h
  | ok duration =>
    simp only [hd] at h
    obtain ⟨source, u, hsource, h⟩ := Action.perform_bind_eq_ok.mp h
    rw [← (obtainSource_opens_nothing hsource).1]
    exact proceed_eq_ok h

end Following

end Client

end SharedChannel
