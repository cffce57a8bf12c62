import SharedChannel.Proofs.InterceptorChain
import SharedChannel.Proofs.SharedConnection

/-!
# All stubs or none

Once there is a channel, a client is built if the stubs of all services are. Otherwise the services
are taken in order up to the first one that fails, nothing is built behind it, and the channel is
closed by one attempt. The failure that callers see is that of this service, unless the attempt
fails itself. All this goes for failures that can be recorded. The record is made first, so a
failure without a text, like an interrupt, leaves the channel open.
-/

namespace SharedChannel

namespace Client

/-- Everything up to the open channel. -/
def opening (e : Endpoint) (options : List ClientOption) (timeout : Value) : Action Channel := do
  let s := ClientSettings.ofOptions options
  let duration ← Action.ofExcept timeout.duration?
  let start := (← get).clock
  let deadline := duration.map start.add
  let source ← obtainSource e s timeout deadline
  Action.record .debug logger (summary e s source)
  newConnection e source s.dialOptions (remaining deadline (← get).clock)

/-- Everything from the open channel on. -/
def equip (e : Endpoint) (c : Channel) : Action Client := do
  let stubs ← buildStubs e c
  Action.record .info logger ("Client ready for " ++ e.host)
  return { channel := c, stubs }

lemma connect_eq (e : Endpoint) (options : List ClientOption) (timeout : Value) :
    connect e options timeout = opening e options timeout >>= equip e := by
  unfold connect opening
  simp only [bind_assoc]
  rfl

/-- The stubs of services on one channel. -/
def stubsOf (c : Channel) (services : List Service) : List (String × Stub) :=
  services.map fun service => (service.accessor, ⟨service, c⟩)

end Client

/-- The call of a stub's constructor with a channel. -/
def Service.construction (channel : ℕ) (service : Service) : Effect :=
  .stub channel service.path.toText service.stub

namespace Client

section Opened

variable {s : Surroundings} {w u : World}

/-- An effect from before the stubs: it builds none, and it closes nothing. -/
def Preparatory (effect : Effect) : Prop := effect.phase? ≠ some .stub ∧ effect.isClose = false

lemma preparatory_of_stages {l : List Stage} (htidy : ∀ x ∈ l, x.Tidy)
    (hphase : ∀ x ∈ l, x.phase ≠ .stub) : ∀ effect ∈ l.flatMap (·.effects), Preparatory effect := by
  intro effect heffect
  obtain ⟨x, hx, hmem⟩ := List.mem_flatMap.mp heffect
  have heffects := htidy x hx effect hmem
  refine ⟨?_, Stage.isClose_eq_false_of_phase heffects⟩
  rw [heffects]
  exact fun h => hphase x hx (Option.some.inj h)

lemma preparatory_of_obtainSource {e : Endpoint} {settings : ClientSettings} {timeout : Value}
    {deadline : Option Binary64} {source : Option TokenSource}
    (h : (obtainSource e settings timeout deadline).perform s w = (.ok source, u)) :
    ∃ effects, u.trace = w.trace ++ effects ∧ ∀ effect ∈ effects, Preparatory effect := by
  have hrun : Follows .ofClient 0 none
      [initializationStage e.origin (remaining deadline w.clock) settings.initializer,
        deadlineStage deadline w.clock settings.initializer] w (.ok source, u) :=
    h ▸ obtainSource_follows e settings timeout deadline
  obtain ⟨-, -, htrace⟩ := hrun.completed hrun.firstFailure_eq_none
  refine ⟨_, htrace, preparatory_of_stages ?_ ?_⟩
  · rw [List.forall_mem_cons, List.forall_mem_singleton]
    exact ⟨initializationStage_tidy _ _ _, deadlineStage_tidy _ _ _⟩
  · simp

lemma preparatory_of_newConnection {e : Endpoint} {options : List ClientOption} {budget : Value}
    {c : Channel} (hbudget : budget.isOverlong = false)
    (h : (newConnection e (sourceOf (ClientOption.lastAuth options))
      (ClientOption.dialOptions options) budget).perform s w = (.ok c, u)) :
    ∃ effects, u.trace = w.trace ++ effects ∧ ∀ effect ∈ effects, Preparatory effect := by
  have hrun := newConnection_follows (s := s) (w := w) e options budget hbudget rfl rfl
  rw [h] at hrun
  obtain ⟨-, -, htrace⟩ := hrun.completed hrun.firstFailure_eq_none
  refine ⟨_, htrace, preparatory_of_stages ?_ ?_⟩
  · rw [List.forall_mem_cons]
    exact ⟨transportStage_tidy e _, Dial.stages_tidy e.host _ budget _⟩
  · simp [Dial.stages, transportStage]

/-- Until there is a channel no stub is built and nothing is closed. -/
lemma preparatory_of_opening {e : Endpoint} {options : List ClientOption} {timeout : Value}
    {c : Channel} (h : (opening e options timeout).perform s w = (.ok c, u)) :
    ∃ effects, u.trace = w.trace ++ effects ∧ ∀ effect ∈ effects, Preparatory effect := by
  unfold opening at h
  obtain ⟨duration, w', hduration, h⟩ := Action.perform_bind_eq_ok.mp h
  rw [Action.perform_ofExcept] at hduration
  obtain ⟨-, rfl⟩ := Prod.mk.inj hduration
  rw [Action.perform_bind_of_ok (Action.perform_get ..)] at h
  obtain ⟨source, v, hsource, h⟩ := Action.perform_bind_eq_ok.mp h
  rw [Action.perform_bind_of_ok (Action.perform_record ..),
    Action.perform_bind_of_ok (Action.perform_get ..), (obtainSource_eq_ok hsource).1,
    ClientOption.ofOptions_initializer, ClientOption.ofOptions_dialOptions] at h
  obtain ⟨first, hfirst, hprepares⟩ := preparatory_of_obtainSource hsource
  obtain ⟨later, hlater, hprepares'⟩ := preparatory_of_newConnection (isOverlong_remaining ..) h
  refine ⟨first ++ later, ?_, ?_⟩
  · rw [hlater, ← List.append_assoc, ← hfirst]
  · intro effect heffect
    exact (List.mem_append.mp heffect).elim (hprepares effect) (hprepares' effect)

lemma closeAttempts_of_preparatory {effects : List Effect} (h : u.trace = w.trace ++ effects)
    (hprepares : ∀ effect ∈ effects, Preparatory effect) : u.closeAttempts = w.closeAttempts := by
  have hnone : effects.countP Effect.isClose = 0 := by
    rw [List.countP_eq_zero]
    intro effect heffect
    rw [(hprepares effect heffect).2]
    exact Bool.false_ne_true
  rw [World.closeAttempts, h, List.countP_append, hnone]
  rfl

end Opened

section Stubs

variable {c : Channel} {s : Surroundings} {w : World} {done rest : List Service}
  {service : Service} {f : Failure}

lemma perform_mapM_buildStub (hservices : ∀ x ∈ done, x ∈ Service.all)
    (hdone : ∀ x ∈ done, s.supply.outcome x = .built) :
    (done.mapM (buildStub c)).perform s w =
      (.ok (stubsOf c done), w.did (done.map (·.construction c.number))) := by
  induction done generalizing w with
  | nil =>
    rw [List.map_nil, World.did_nil]
    rfl
  | cons service rest ih =>
    obtain ⟨hservice, hothers⟩ := List.forall_mem_cons.mp hservices
    obtain ⟨hbuilt, hrest⟩ := List.forall_mem_cons.mp hdone
    have hfirst : (buildStub c service).perform s w =
        (.ok (service.accessor, ⟨service, c⟩), w.did [service.construction c.number]) := by
      rw [perform_buildStub c hservice, Service.stage, hbuilt]
      rfl
    rw [List.mapM_cons, Action.perform_bind_of_ok hfirst,
      Action.perform_bind_of_ok (ih hothers hrest), World.did_did]
    rfl

/-- The services behind the first one that fails are not looked at. -/
lemma perform_mapM_buildStub_of_failure (hall : Service.all = done ++ service :: rest)
    (hdone : ∀ x ∈ done, s.supply.outcome x = .built)
    (hf : (s.supply.outcome service).failure? service = some f) :
    (Service.all.mapM (buildStub c)).perform s w = (.error f,
      w.did (done.map (·.construction c.number) ++ (service.stage s.supply c.number).effects)) := by
  have hservice : service ∈ Service.all := by
    rw [hall]
    simp
  have hservices : ∀ x ∈ done, x ∈ Service.all := by
    intro x hx
    rw [hall]
    exact List.mem_append_left _ hx
  have hfails := perform_buildStub (s := s) (w := w.did (done.map (·.construction c.number))) c
    hservice
  rw [hf] at hfails
  rw [hall, List.mapM_append,
    Action.perform_bind_of_ok (perform_mapM_buildStub hservices hdone), List.mapM_cons,
    ← World.did_did]
  exact Action.perform_bind_of_error (Action.perform_bind_of_error hfails)

/-- The first service without a stub, with those before it. -/
lemma exists_first_failure {services : List Service} {supply : Supply}
    (h : ¬ ∀ x ∈ services, supply.outcome x = .built) :
    ∃ done service rest f, services = done ++ service :: rest ∧
      (∀ x ∈ done, supply.outcome x = .built) ∧
        (supply.outcome service).failure? service = some f := by
  induction services with
  | nil => exact absurd (List.forall_mem_nil _) h
  | cons service rest ih =>
    cases hservice : (supply.outcome service).failure? service with
    | some f => exact ⟨[], service, rest, f, rfl, List.forall_mem_nil _, hservice⟩
    | none =>
      have hbuilt := Service.Outcome.failure?_eq_none_iff.mp hservice
      have hrest : ¬ ∀ x ∈ rest, supply.outcome x = .built := by
        intro hrest
        exact h (List.forall_mem_cons.mpr ⟨hbuilt, hrest⟩)
      obtain ⟨done, failing, behind, f, rfl, hdone, hf⟩ := ih hrest
      exact ⟨service :: done, failing, behind, f, rfl, List.forall_mem_cons.mpr ⟨hbuilt, hdone⟩, hf⟩

end Stubs

section Phase

variable {e : Endpoint} {c : Channel} {s : Surroundings} {w u : World} {done rest : List Service}
  {service : Service} {f : Failure}

/-- All stubs are built, in order, and the client has them. -/
structure Equipped (e : Endpoint) (c : Channel) (u : World)
    (out : Except Failure Client × World) : Prop where
  outcome : out.1 = .ok { channel := c, stubs := stubsOf c Service.all }
  trace : out.2.trace = u.trace ++ Service.all.map (·.construction c.number)
  log : out.2.log = u.log ++ [⟨logger, Logging.Level.info.number, "Client ready for " ++ e.host⟩]
  closed : out.2.closed = u.closed

/-- The services `done` have their stubs and the next one has none, which is the failure `f`. -/
structure Halts (s : Surroundings) (done : List Service) (service : Service) (f : Failure) :
    Prop where
  built : ∀ x ∈ done, s.supply.outcome x = .built
  fails : (s.supply.outcome service).failure? service = some f

/-- What was done when a service has no stub: those before it were constructed on the channel, and
so was it unless it did not come to that. -/
def constructions (s : Surroundings) (c : Channel) (done : List Service) (service : Service) :
    List Effect :=
  done.map (·.construction c.number) ++
    if (s.supply.outcome service).isConstructed then [service.construction c.number] else []

/-- The failure is recorded, and the channel is closed by one attempt, which decides about the
failure that is raised. -/
structure Abandoned (e : Endpoint) (c : Channel) (s : Surroundings) (u : World)
    (done : List Service) (service : Service) (f : Failure)
    (out : Except Failure Client × World) : Prop where
  trace : out.2.trace = u.trace ++ (constructions s c done service ++ [.close c.number])
  attempts : out.2.closeAttempts = u.closeAttempts + 1
  log : out.2.log = u.log ++ [⟨logger, Logging.Level.error.number,
    "Failed to create service stubs for " ++ e.host ++ ": " ++ f.wording⟩]
  outcome : out.1 = .error ((s.closeFailures[u.closeAttempts]?.join).getD f)
  closed : out.2.closed =
    u.closed ++ if s.closeFailures[u.closeAttempts]?.join = none then [c.number] else []

/-- The failure is not recorded and the channel is left open. -/
structure Dropped (c : Channel) (s : Surroundings) (u : World) (done : List Service)
    (service : Service) (f : Failure) (out : Except Failure Client × World) : Prop where
  trace : out.2.trace = u.trace ++ constructions s c done service
  attempts : out.2.closeAttempts = u.closeAttempts
  log : out.2.log = u.log
  outcome : out.1 = .error f.escaping
  closed : out.2.closed = u.closed

lemma equipped_of_built (hbuilt : ∀ x ∈ Service.all, s.supply.outcome x = .built) :
    Equipped e c u ((equip e c).perform s u) := by
  have hmapM := perform_mapM_buildStub (c := c) (w := u) (fun _ h => h) hbuilt
  have hstubs : (buildStubs e c).perform s u = (.ok (stubsOf c Service.all),
      u.did (Service.all.map (·.construction c.number))) := by
    rw [buildStubs, Action.perform_bind_of_ok (Action.perform_attempt ..), hmapM]
    rfl
  rw [equip, Action.perform_bind_of_ok hstubs, Action.perform_bind_of_ok (Action.perform_record ..)]
  exact ⟨rfl, rfl, rfl, rfl⟩

/-- No attempt to close a channel is made while stubs are built. -/
lemma closeAttempts_constructions (s : Surroundings) (c : Channel) (u : World)
    (done : List Service) (service : Service) :
    (u.did (constructions s c done service)).closeAttempts = u.closeAttempts := by
  have hnone : (constructions s c done service).countP Effect.isClose = 0 := by
    rw [List.countP_eq_zero]
    intro effect heffect
    have hstub : ∃ x : Service, effect = x.construction c.number := by
      obtain hbuilt | htried := List.mem_append.mp heffect
      · obtain ⟨x, -, rfl⟩ := List.mem_map.mp hbuilt
        exact ⟨x, rfl⟩
      · split at htried
        · exact ⟨service, List.mem_singleton.mp htried⟩
        · exact absurd htried List.not_mem_nil
    obtain ⟨x, rfl⟩ := hstub
    exact Bool.false_ne_true
  rw [World.closeAttempts, World.did, List.countP_append, hnone]
  rfl

lemma abandoned_of_halts (hall : Service.all = done ++ service :: rest)
    (h : Halts s done service f) (hf : f.isReportable = true) :
    Abandoned e c s u done service f ((equip e c).perform s u) := by
  let tried := u.did (constructions s c done service)
  let message := "Failed to create service stubs for " ++ e.host ++ ": " ++ f.wording
  let logged : World :=
    { tried with log := tried.log ++ [⟨logger, Logging.Level.error.number, message⟩] }
  have hattempts : logged.closeAttempts = u.closeAttempts :=
    closeAttempts_constructions s c u done service
  have hmapM : (Service.all.mapM (buildStub c)).perform s u = (.error f, tried) :=
    perform_mapM_buildStub_of_failure hall h.built h.fails
  have hclose := Action.perform_closeChannel s logged c.number
  rw [hattempts] at hclose
  have hstubs : (buildStubs e c).perform s u =
      (.error ((s.closeFailures[u.closeAttempts]?.join).getD f), { logged with
        trace := logged.trace ++ [.close c.number]
        closed := logged.closed ++
          if s.closeFailures[u.closeAttempts]?.join = none then [c.number] else [] }) := by
    rw [buildStubs, Action.perform_bind_of_ok (Action.perform_attempt ..), hmapM]
    dsimp only
    rw [if_pos (Failure.isOrdinary_of_isReportable hf), Action.perform_bind,
      Action.perform_ofExcept, Failure.message_of_not_mute (Failure.isMute_of_isReportable hf)]
    dsimp only
    rw [Action.perform_bind_of_ok (Action.perform_record ..)]
    cases hclosing : s.closeFailures[u.closeAttempts]?.join with
    | some g =>
      rw [hclosing] at hclose
      rw [Channel.close, Action.perform_bind_of_error hclose, if_neg (by simp), List.append_nil]
      rfl
    | none =>
      rw [hclosing] at hclose
      rw [Channel.close, Action.perform_bind_of_ok hclose, if_pos rfl]
      rfl
  have htrace : logged.trace ++ [Effect.close c.number] =
      u.trace ++ (constructions s c done service ++ [.close c.number]) :=
    List.append_assoc ..
  rw [equip, Action.perform_bind_of_error hstubs]
  refine ⟨htrace, ?_, rfl, rfl, rfl⟩
  change (logged.trace ++ [Effect.close c.number]).countP Effect.isClose = _
  rw [List.countP_append, ← hattempts]
  rfl

lemma dropped_of_halts (hall : Service.all = done ++ service :: rest)
    (h : Halts s done service f) (hf : f.isReportable = false) :
    Dropped c s u done service f ((equip e c).perform s u) := by
  let tried := u.did (constructions s c done service)
  have hmapM : (Service.all.mapM (buildStub c)).perform s u = (.error f, tried) :=
    perform_mapM_buildStub_of_failure hall h.built h.fails
  have hstubs : (buildStubs e c).perform s u = (.error f.escaping, tried) := by
    rw [buildStubs, Action.perform_bind_of_ok (Action.perform_attempt ..), hmapM, Failure.escaping]
    dsimp only
    cases hordinary : f.isOrdinary with
    | false => rfl
    | true =>
      have hmute : f.isMute = true := by
        rw [Failure.isReportable, hordinary] at hf
        simpa using hf
      simp only [if_true]
      rw [Action.perform_bind, Action.perform_ofExcept, Failure.message_of_mute hmute]
  rw [equip, Action.perform_bind_of_error hstubs]
  exact ⟨rfl, closeAttempts_constructions s c u done service, rfl, rfl, rfl⟩

lemma Abandoned.not_dropped {out : Except Failure Client × World}
    (h : Abandoned e c s u done service f out) : ¬ Dropped c s u done service f out := by
  intro hdropped
  have hattempts := h.attempts
  rw [hdropped.attempts] at hattempts
  omega

/-- Whether a failure can be recorded decides between the two. Either way there is no client. -/
lemma halts_iff (hall : Service.all = done ++ service :: rest) (h : Halts s done service f) :
    let out := (equip e c).perform s u
    (Abandoned e c s u done service f out ↔ f.isReportable = true) ∧
      (Dropped c s u done service f out ↔ f.isReportable = false) ∧
      ∀ client, out.1 ≠ .ok client := by
  cases hreport : f.isReportable with
  | true =>
    have habandoned : Abandoned e c s u done service f ((equip e c).perform s u) :=
      abandoned_of_halts hall h hreport
    refine ⟨iff_of_true habandoned rfl, iff_of_false habandoned.not_dropped nofun, ?_⟩
    intro client hclient
    rw [habandoned.outcome] at hclient
    cases hclient
  | false =>
    have hdropped : Dropped c s u done service f ((equip e c).perform s u) :=
      dropped_of_halts hall h hreport
    refine ⟨iff_of_false (fun habandoned => habandoned.not_dropped hdropped) nofun,
      iff_of_true hdropped rfl, ?_⟩
    intro client hclient
    rw [hdropped.outcome] at hclient
    cases hclient

end Phase

/-- A client that has its channel is built if and only if the stubs of all services are. If not, the
services before the first one without a stub have theirs, no later one has, and the failure is
recorded and the channel closed by one attempt, if and only if the failure is an ordinary one with a
text. Otherwise the channel is left open. Before there is a channel no stub is built and nothing is
closed. -/
theorem stubs_are_all_or_nothing_iff {e : Endpoint} {options : List ClientOption} {timeout : Value}
    {s : Surroundings} {w u : World} {c : Channel}
    (h : (opening e options timeout).perform s w = (.ok c, u)) :
    let out := (connect e options timeout).perform s w
    (∃ effects, u.trace = w.trace ++ effects ∧ ∀ effect ∈ effects, Preparatory effect) ∧
    u.closeAttempts = w.closeAttempts ∧
    ((∃ client, out.1 = .ok client) ↔ ∀ x ∈ Service.all, s.supply.outcome x = .built) ∧
    ((∀ x ∈ Service.all, s.supply.outcome x = .built) → Equipped e c u out) ∧
    ((¬ ∀ x ∈ Service.all, s.supply.outcome x = .built) →
      ∃ done service rest f, Service.all = done ++ service :: rest ∧ Halts s done service f ∧
        (Abandoned e c s u done service f out ↔ f.isReportable = true) ∧
        (Dropped c s u done service f out ↔ f.isReportable = false)) := by
  have hrun : (connect e options timeout).perform s w = (equip e c).perform s u := by
    rw [connect_eq, Action.perform_bind_of_ok h]
  dsimp only
  rw [hrun]
  obtain ⟨effects, htrace, hprepares⟩ := preparatory_of_opening h
  have hattempts := closeAttempts_of_preparatory htrace hprepares
  refine ⟨⟨effects, htrace, hprepares⟩, hattempts, ?_, equipped_of_built, ?_⟩
  · constructor
    · rintro ⟨client, hclient⟩
      by_contra hfailing
      obtain ⟨done, service, rest, f, hall, hbuilt, hf⟩ := exists_first_failure hfailing
      exact (halts_iff hall ⟨hbuilt, hf⟩).2.2 client hclient
    · intro hbuilt
      exact ⟨_, (equipped_of_built hbuilt).outcome⟩
  · intro hfailing
    obtain ⟨done, service, rest, f, hall, hbuilt, hf⟩ := exists_first_failure hfailing
    obtain ⟨habandoned, hdropped, -⟩ := halts_iff (e := e) (c := c) (u := u) hall ⟨hbuilt, hf⟩
    exact ⟨done, service, rest, f, hall, ⟨hbuilt, hf⟩, habandoned, hdropped⟩

namespace Halted

/-! The constructor of the third stub fails, and the fourth one could not be loaded. -/

def endpoint : Endpoint := ⟨.text "h", "443", .bool true⟩

def failing (f : Failure) : Surroundings where
  supply := { classless := ["auth_service"], failing := [("management_service", f)] }

def boom : Failure := .raised .runtime "boom"

def mute : Failure := .mute .runtime (.raised .value "no text")

def connection : Channel := ⟨1, .tls .none, some ⟨.own, .bool true, none⟩, []⟩

def world (f : Failure) : World := ((opening endpoint [] .none).perform (failing f) {}).2

def third : Service :=
  ⟨"management_service", ["zitadel", "management_pb2_grpc"], "ManagementServiceStub"⟩

lemma perform_opening (f : Failure) :
    (opening endpoint [] .none).perform (failing f) {} = (.ok connection, world f) :=
  Prod.ext (by rfl) rfl

lemma not_all_built (f : Failure) :
    ¬ ∀ x ∈ Service.all, (failing f).supply.outcome x = .built := by
  intro h
  have hthird := h third (by decide)
  cases hthird

end Halted

open Halted in
theorem third_stub_fails :
    (opening endpoint [] .none).perform (failing boom) {} = (.ok connection, world boom) ∧
      (∃ done service rest f, Service.all = done ++ service :: rest ∧
        Halts (failing boom) done service f ∧
        Abandoned endpoint connection (failing boom) (world boom) done service f
          ((connect endpoint [] .none).perform (failing boom) {})) ∧
      failureOf ((connect endpoint [] .none).perform (failing boom) {}).1 = some boom ∧
      ((connect endpoint [] .none).perform (failing boom) {}).2.trace = (world boom).trace ++ [
        .stub 1 "zitadel.system_pb2_grpc" "SystemServiceStub",
        .stub 1 "zitadel.admin_pb2_grpc" "AdminServiceStub",
        .stub 1 "zitadel.management_pb2_grpc" "ManagementServiceStub", .close 1] := by
  obtain ⟨-, -, -, -, hhalts⟩ := stubs_are_all_or_nothing_iff (perform_opening boom)
  obtain ⟨done, service, rest, f, hall, hstopped, habandoned, -⟩ := hhalts (not_all_built boom)
  have hservice : service ∈ Service.all := by
    rw [hall]
    simp
  have hreportable : ∀ x ∈ Service.all,
      (((failing boom).supply.outcome x).failure? x).all (·.isReportable) = true := by
    decide +kernel
  have hf := hreportable service hservice
  rw [hstopped.fails, Option.all_some] at hf
  exact ⟨perform_opening boom, ⟨done, service, rest, f, hall, hstopped, habandoned.mpr hf⟩, by rfl,
    by rfl⟩

open Halted in
/-- A constructor that fails without a text leaves the channel open. Nothing is recorded, and what
is raised is why there is no text. -/
theorem mute_failure_leaves_channel_open :
    let out := (connect endpoint [] .none).perform (failing mute) {}
    (opening endpoint [] .none).perform (failing mute) {} = (.ok connection, world mute) ∧
      (failing mute).supply.outcome third = .failing mute ∧
      failureOf out.1 = some (.raised .value "no text") ∧
      out.2.trace = (world mute).trace ++ [
        .stub 1 "zitadel.system_pb2_grpc" "SystemServiceStub",
        .stub 1 "zitadel.admin_pb2_grpc" "AdminServiceStub",
        .stub 1 "zitadel.management_pb2_grpc" "ManagementServiceStub"] ∧
      out.2.log = (world mute).log ∧ out.2.opened = 1 ∧ out.2.closeAttempts = 0 ∧
      out.2.closed = [] :=
  ⟨perform_opening mute, by rfl, by rfl, by rfl, by rfl, by rfl, by rfl, by rfl⟩

end Client

end SharedChannel
