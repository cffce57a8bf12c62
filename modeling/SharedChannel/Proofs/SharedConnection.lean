import SharedChannel.Proofs.CallEffects
import SharedChannel.Proofs.LinearBuild

/-!
# One connection, one provider

Building a client opens one channel and puts every stub on it. Whatever the client is used for
later, calls reach that channel alone, and besides what the caller and the interceptors of the
caller add, they carry what one provider grants: the last one that the options set.
-/

namespace SharedChannel

/-- The host to which an effect opens a channel. -/
def Effect.openedHost? : Effect → Option String
  | secureChannel host .. => some host
  | plainChannel host .. => some host
  | _ => none

namespace Stage

variable {l : List Stage}

/-- In a run of tidy stages, the effects of a phase are those of its stages. -/
lemma filter_effects (p : Phase) (htidy : ∀ x ∈ l, x.Tidy) :
    (l.flatMap (·.effects)).filter (fun e => e.phase? == some p) =
      (l.filter (·.phase == p)).flatMap (·.effects) := by
  induction l with
  | nil => rfl
  | cons x rest ih =>
    obtain ⟨hx, hrest⟩ := List.forall_mem_cons.mp htidy
    have hphase : ∀ e ∈ x.effects, (e.phase? == some p) = (x.phase == p) := by
      intro e he
      rw [hx e he]
      rfl
    rw [List.flatMap_cons, List.filter_append, ih hrest, List.filter_congr hphase,
      List.filter_cons]
    cases x.phase == p with
    | true => simp
    | false => simp

lemma filterMap_openedHost (htidy : ∀ x ∈ l, x.Tidy) :
    (l.flatMap (·.effects)).filterMap Effect.openedHost? =
      ((l.filter (·.phase == .opening)).flatMap (·.effects)).filterMap Effect.openedHost? := by
  rw [← filter_effects .opening htidy, List.filterMap_filter]
  refine List.filterMap_congr fun e _ => ?_
  cases e <;> rfl

end Stage

namespace Client

/-- Building the client opened one channel to the endpoint and closed none, and each service has its
stub, which is on that channel. -/
structure SharesChannel (e : Endpoint) (c : Client) (w v : World) : Prop where
  effects : ∃ effects, v.trace = w.trace ++ effects ∧
    effects.filterMap Effect.openedHost? = [e.host] ∧ effects.countP Effect.isClose = 0 ∧
    effects.filter (fun effect => effect.phase? == some .stub) =
      Service.all.map fun service => .stub v.opened service.path.toText service.stub
  opened : v.opened = w.opened + 1
  closed : v.closed = w.closed
  number : c.channel.number = v.opened
  stubs : c.stubs = Service.all.map fun service => (service.accessor, ⟨service, c.channel⟩)
  access : ∀ service ∈ Service.all, c.access service.accessor = .ok ⟨service, c.channel⟩

variable {e : Endpoint} {options : List ClientOption} {timeout : Value} {s : Surroundings}
  {w v : World} {c : Client}

lemma plan_opening : (plan e options timeout s w).filter (·.phase == .opening) =
    [Dial.openingStage e.host (.ofOptions (allDialOptions e options)) s.channelFailure] := by
  have hstubs : (Service.all.map (Service.stage s.supply (w.opened + 1))).filter
      (·.phase == .opening) = [] := by
    rw [List.filter_eq_nil_iff]
    simp
  rw [plan, List.filter_append, List.filter_append, hstubs]
  simp [Dial.stages, timingStage, transportStage]

lemma openingStage_host (host : String) (d : DialSettings) (failure : Option Failure) :
    (Dial.openingStage host d failure).effects.filterMap Effect.openedHost? = [host] := by
  rw [Dial.openingStage]
  dsimp only
  split <;> rfl

lemma stage_effects_of_none {supply : Supply} {number : ℕ} {service : Service}
    (h : (service.stage supply number).failure = none) :
    (service.stage supply number).effects = [.stub number service.path.toText service.stub] := by
  have hbuilt : (supply.outcome service).failure? service = none := h
  rw [Service.stage]
  dsimp only
  cases houtcome : supply.outcome service <;> rw [houtcome] at hbuilt <;> cases hbuilt
  rfl

lemma access_of_intact (hc : c.Intact) {service : Service} (hservice : service ∈ Service.all) :
    c.access service.accessor = .ok ⟨service, c.channel⟩ := by
  have hfind : ∀ service ∈ Service.all,
      Service.all.find? (service.accessor == ·.accessor) = some service := by decide
  rw [hc.access, hfind service hservice]

lemma sharesChannel_of_connect (h : (connect e options timeout).perform s w = (.ok c, v)) :
    c.SharesChannel e w v := by
  have hrun := connect_follows e options timeout s w
  rw [h] at hrun
  have hfirst := hrun.firstFailure_eq_none
  have htidy := plan_tidy e options timeout s w
  obtain ⟨-, hnone, htrace⟩ := hrun.completed hfirst
  obtain ⟨security, -, hchannel, hintact, -⟩ := connect_eq_ok h
  have hopened : v.opened = w.opened + 1 := by
    rw [hrun.opened, plan_openings, hfirst]
    rfl
  refine ⟨⟨_, htrace, ?_, ?_, ?_⟩, hopened, ?_, ?_, hintact.stubs, ?_⟩
  · rw [Stage.filterMap_openedHost htidy, plan_opening, List.flatMap_singleton, openingStage_host]
  · have hcount := Stage.countP_isClose_history htidy
    rwa [Stage.history, Stage.reached_of_none hfirst] at hcount
  · have hstub : ∀ service ∈ Service.all, (service.stage s.supply (w.opened + 1)).effects =
        [.stub v.opened service.path.toText service.stub] := by
      intro service hservice
      rw [hopened]
      have hmem : service.stage s.supply (w.opened + 1) ∈
          (plan e options timeout s w).filter (·.phase == .stub) := by
        rw [plan_stubs]
        exact List.mem_map_of_mem hservice
      exact stage_effects_of_none (hnone _ (List.mem_of_mem_filter hmem))
    rw [Stage.filter_effects .stub htidy, plan_stubs, List.flatMap_map, List.map_eq_flatMap]
    exact List.flatMap_congr hstub
  · have hclosed := hrun.closed
    rw [hfirst] at hclosed
    simpa [closings, isGuarded] using hclosed
  · rw [hchannel, Dial.channelOf_number, hopened]
  · exact fun service hservice => access_of_intact hintact hservice

end Client

/-- A call that reaches the channel of the number with the caller's metadata, what the provider
grants, if there is one, and what each of the interceptors contributes, in some order. -/
inductive Effect.Delivers (number : ℕ) (provider : Option Provider)
    (interceptors : List Interceptor) (call : Call) : Effect → Prop where
  | intro {d : CallDetails} {plugin : Option Metadata} {granted : Metadata}
      {parts : List Metadata} (hgranted : Provider.Yields provider granted)
      (hparts : List.Forall₂ (Interceptor.Contributes call.kind) interceptors parts)
      (hcarried : (Effect.call number call.kind call.request d plugin).carried.Perm
        (call.details.metadata.getD [] ++ granted ++ parts.flatten)) :
      Delivers number provider interceptors call (.call number call.kind call.request d plugin)

/-- On a plaintext channel the provider's part comes from the interceptor in front. -/
lemma contributes_authorizing {kind : CallKind} {p : Option Provider}
    {interceptors : List Interceptor} {parts : List Metadata}
    (h : List.Forall₂ (Interceptor.Contributes kind)
      ((p.toList.map fun p => .authorizing (some p)) ++ interceptors) parts) :
    ∃ granted others, Provider.Yields p granted ∧
      List.Forall₂ (Interceptor.Contributes kind) interceptors others ∧
      parts.flatten = granted ++ others.flatten := by
  cases p with
  | none => exact ⟨[], parts, rfl, h, rfl⟩
  | some p =>
    obtain ⟨granted, others, hp, hothers, rfl⟩ := List.forall₂_cons_left_iff.mp h
    exact ⟨granted, others, hp, hothers, List.flatten_cons⟩

/-- On a dialed channel, whether secure or plaintext, a call carries what the caller and the
interceptors add and what one provider grants. -/
lemma Channel.Does.delivers {security : Security} {d : DialSettings} {number : ℕ} {call : Call}
    {effect : Effect} (h : (Dial.channelOf security d number).Does call effect)
    (hcall : effect.isCall = true) :
    effect.Delivers number d.callCredentials d.interceptors call := by
  cases h with
  | @call details plugin parts hparts hd hplugin =>
    rw [Dial.channelOf_number]
    cases security with
    | tls roots =>
      -- the plugin adds its part at the end, the statement has it before the interceptors'
      obtain ⟨granted, rfl, hgranted⟩ := hplugin
      refine .intro hgranted hparts ?_
      rw [Effect.carried, hd.metadata, Option.getD_some, List.append_assoc, List.append_assoc]
      exact List.perm_append_comm.append_left _
    | plaintext =>
      obtain rfl : plugin = none := hplugin
      obtain ⟨granted, others, hgranted, hothers, hflatten⟩ := contributes_authorizing hparts
      refine .intro hgranted hothers ?_
      rw [Effect.carried, hd.metadata, Option.getD_none, List.append_nil, hflatten,
        List.append_assoc]
  | _ => cases hcall

namespace Client

/-- A client shares one channel among its stubs, and all later calls reach it with one provider's
entries, whatever else the options set: the caller's own part and that of the caller's interceptors
apart. -/
theorem calls_share_channel {e : Endpoint} {options : List ClientOption} {timeout : Value}
    {s : Surroundings} {w v : World} {c : Client}
    (h : (connect e options timeout).perform s w = (.ok c, v)) :
    c.SharesChannel e w v ∧ ∀ r u uses, List.Forall₂
      (fun (a : Use) (o : Observation (Option Reply)) => ∀ effect ∈ o.effects,
        effect.isCall = true → ∃ accessor call, a = .call accessor call ∧
          effect.Delivers v.opened (DialOption.lastProvider (allDialOptions e options))
            (ClientOption.interceptors options) call)
      uses (session use r c u uses) := by
  have hshares := sharesChannel_of_connect h
  obtain ⟨security, -, hchannel, hintact, -⟩ := connect_eq_ok h
  refine ⟨hshares, fun r u uses => ?_⟩
  refine (session_does hintact u uses).imp ?_
  intro a o hdoes effect heffect hcall
  have hdone : a.Does c.channel effect := hdoes effect heffect
  cases a with
  | close =>
    rw [show effect = .close c.channel.number from hdone] at hcall
    cases hcall
  | call accessor call =>
    have hmade : c.channel.Does call effect := hdone
    rw [hchannel] at hmade
    have hdelivers := hmade.delivers hcall
    rw [DialOption.ofOptions_callCredentials, DialOption.ofOptions_interceptors,
      ← hshares.opened] at hdelivers
    exact ⟨accessor, call, rfl, hdelivers⟩

namespace Crowded

/-! The caller sets a provider twice, and brings an interceptor that authorizes by itself. -/

def endpoint : Endpoint := ⟨.text "h", "443", .bool true⟩

def labelled (label : String) (index : ℕ) : Provider :=
  ⟨.labelled label, .bool true, some (.rotating (.given index) label)⟩

def added : List Interceptor :=
  [.authorizing (some (labelled "z" 2)), .custom "trace" [.unaryUnary] [("trace", "on")] none]

def options : List ClientOption := [
  .dial [.perCallCredentials (some (labelled "a" 0)), .block],
  .auth (some (.personal (.text "pat"))),
  .dial [.interceptors added, .perCallCredentials (some (labelled "b" 1))]]

def channel : Channel := ⟨1, .tls .none, some (labelled "b" 1), added⟩

def client : Client := { channel, stubs := stubsOn channel }

def world : World := ((connect endpoint options .none).perform {} {}).2

/-- A call through a stub, one on the channel, and one after closing. -/
def uses : List Use := [
  .call (some "user_service_v2") { kind := .unaryUnary, method := "/p.S/M", request := .text "r" },
  .call none {
    kind := .streamUnary, method := "/p.S/N", request := .list []
    metadata := some [("authorization", "mine")] },
  .close,
  .call (some "admin_service") { kind := .unaryUnary, method := "/p.S/M", request := .text "r" }]

theorem crowded_calls_share_channel :
    (connect endpoint options .none).perform {} {} = (.ok client, world) ∧
      client.SharesChannel endpoint {} world ∧
      List.Forall₂ (fun (a : Use) (o : Observation (Option Reply)) => ∀ effect ∈ o.effects,
          effect.isCall = true → ∃ accessor call, a = .call accessor call ∧
            effect.Delivers 1 (some (labelled "b" 1)) added call)
        uses (session use {} client world uses) ∧
      ((session use {} client world uses).map fun o => o.effects.flatMap (·.carried)) = [
        [⟨"authorization", "Bearer z1", some (.labelled "z")⟩, ⟨"trace", "on", none⟩,
          ⟨"authorization", "Bearer b1", some (.labelled "b")⟩],
        [⟨"authorization", "mine", none⟩, ⟨"authorization", "Bearer z2", some (.labelled "z")⟩,
          ⟨"authorization", "Bearer b2", some (.labelled "b")⟩],
        [], []] := by
  have hconnect : (connect endpoint options .none).perform {} {} = (.ok client, world) :=
    Prod.ext (by rfl) rfl
  obtain ⟨hshares, hcalls⟩ := calls_share_channel hconnect
  have hopened : world.opened = 1 := hshares.opened
  have hsession := hcalls {} world uses
  rw [hopened] at hsession
  exact ⟨hconnect, hshares, hsession, by rfl⟩

end Crowded

end Client

end SharedChannel
