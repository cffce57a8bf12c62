import SharedChannel.Proofs.EffectiveSettings
import SharedChannel.Proofs.InterceptorChain
import SharedChannel.Proofs.LoadedToken
import SharedChannel.Proofs.StoreFrame

/-!
# The token of a config

The personal access token of a config comes before the options of the caller. If these set an
initializer, be it none, the token makes no difference to anything that is done or said, now or
later. If they do not, each call carries the token, or nothing of the client's own if the token is
empty.
-/

namespace SharedChannel

/-- What a token that is configured adds to a call. -/
def Metadata.bearer (token : String) : Metadata :=
  if token = "" then [] else [⟨"authorization", "Bearer " ++ token, some .own⟩]

/-- A call that carries the entries. Everything else that it carries comes from the caller or the
interceptors of the caller, and if none of these authorizes, from no provider. -/
structure Effect.Brings (entries : Metadata) (interceptors : List Interceptor) (call : Call)
    (effect : Effect) : Prop where
  carried : ∃ parts, List.Forall₂ (Interceptor.Contributes call.kind) interceptors parts ∧
    effect.carried.Perm (call.details.metadata.getD [] ++ entries ++ parts.flatten)
  issued : (∀ i ∈ interceptors, i.provider? = none) →
    effect.carried.filter (·.issuer.isSome) = entries

/-- The call was sent, and its outcome is what the transport makes of what was sent. -/
def Observation.Arrived (t : Transport) (call : Call) (o : Observation (Option Reply)) : Prop :=
  ∃ number d plugin, .call number call.kind call.request d plugin ∈ o.effects ∧
    o.outcome = (t.exchange call.kind call.request d plugin).map some

namespace Client

/-- A client from its building through all uses of it. -/
structure Lifetime where
  built : Except Failure Client
  after : World
  uses : List (Observation (Option Reply))

/-- Builds a client and uses it, if it was built. -/
def lifetime (build : Action Client) (s r : Surroundings) (w : World) (uses : List Use) :
    Lifetime :=
  let out := build.perform s w
  ⟨out.1, out.2,
    match out.1 with
    | .ok c => session use r c out.2 uses
    | .error _ => []⟩

/-- Everything is the same but for the settings of the process. -/
structure Lifetime.SameButStore (x y : Lifetime) : Prop where
  built : x.built = y.built
  after : y.after = x.after.withStore y.after.store
  uses : List.Forall₂ Observation.SameButStore x.uses y.uses

section Hidden

variable {options : List ClientOption} {config : Config} {token : Value} {i : Option Initializer}

/-- The initializer of the caller comes last. -/
lemma configOptions_alike (h : .auth i ∈ options) (config : Config) :
    ClientOption.Alike (configOptions config options) options := by
  unfold configOptions
  split
  · refine ⟨?_, (ClientOption.Alike.refl options).dial⟩
    have hlast := getLast?_cons_of_decided (f := ClientOption.auth?)
      (x := .auth (some (.personal config.pat))) rfl h
    unfold ClientOption.lastAuth
    rw [hlast]
  · exact .refl options

lemma ofConfig_of_auth (h : .auth i ∈ options) (config : Config) :
    ofConfig config options = (do
      let e ← Action.ofExcept (Endpoint.ofConfig config)
      connect e options config.timeout) := by
  unfold ofConfig
  simp only [connect_congr (configOptions_alike h config)]

/-- An endpoint has nothing to do with the token. -/
lemma ofConfig_congr (h : .auth i ∈ options) :
    ofConfig { config with pat := token } options = ofConfig config options := by
  rw [ofConfig_of_auth h, ofConfig_of_auth h]
  rfl

lemma ofConfig_storeless (config : Config) (options : List ClientOption) :
    Action.Storeless (ofConfig config options) :=
  .bind (.ofExcept _) fun e => connect_storeless e _ _

lemma perform_ofSettings_of_ok {s : Surroundings} {w : World} {l : Settings.Loaded}
    (h : (Settings.current.perform w.store).1 = .ok l) :
    (ofSettings options).perform s w = (ofConfig l.config options).perform s
      (w.withStore (Settings.current.perform w.store).2) := by
  unfold ofSettings
  refine Action.perform_bind_of_ok ?_
  rw [Action.perform_settings, h]
  rfl

lemma perform_ofSettings_of_error {s : Surroundings} {w : World} {f : Failure}
    (h : (Settings.current.perform w.store).1 = .error f) :
    (ofSettings options).perform s w =
      (.error f, w.withStore (Settings.current.perform w.store).2) := by
  unfold ofSettings
  refine Action.perform_bind_of_error ?_
  rw [Action.perform_settings, h]
  rfl

/-- Settings that differ in the token lead to the same clients. -/
lemma ofSettings_withStore (h : .auth i ∈ options) {s : Surroundings} {w : World}
    {p : Settings.Store}
    (hloaded : SameOutcome (fun l l' => ∃ token, l'.config = { l.config with pat := token })
      (Settings.current.perform w.store).1 (Settings.current.perform p).1) :
    (ofSettings options).perform s (w.withStore p) =
      (((ofSettings options).perform s w).1,
        ((ofSettings options).perform s w).2.withStore (Settings.current.perform p).2) := by
  generalize hl : (Settings.current.perform w.store).1 = r at hloaded
  generalize hl' : (Settings.current.perform p).1 = r' at hloaded
  cases hloaded with
  | error f =>
    rw [perform_ofSettings_of_error hl, perform_ofSettings_of_error hl']
    rfl
  | @ok l l' hconfig =>
    obtain ⟨token, hconfig⟩ := hconfig
    rw [perform_ofSettings_of_ok hl, perform_ofSettings_of_ok hl', hconfig, ofConfig_congr h]
    exact ofConfig_storeless l.config options s (w.withStore (Settings.current.perform w.store).2)
      (Settings.current.perform p).2

lemma lifetime_sameButStore {build : Action Client} {s : Surroundings} {w v : World}
    {p : Settings.Store}
    (h : build.perform s v = ((build.perform s w).1, (build.perform s w).2.withStore p))
    (r : Surroundings) (uses : List Use) :
    (lifetime build s r w uses).SameButStore (lifetime build s r v uses) := by
  unfold lifetime
  rw [h]
  refine ⟨rfl, rfl, ?_⟩
  dsimp only
  cases (build.perform s w).1 with
  | error f => exact .nil
  | ok c => exact session_sameButStore r c _ p uses

end Hidden

section Served

variable {options : List ClientOption} {config : Config} {token : String} {e : Endpoint}

lemma sourceOf_configOptions (hauth : ∀ i, .auth i ∉ options) (hpat : config.pat = .text token) :
    sourceOf (ClientOption.lastAuth (configOptions config options)) =
      if token = "" then none
      else some (.fixed .personal { accessToken := .text token }) := by
  have hnone : options.filterMap ClientOption.auth? = [] := by
    rw [List.filterMap_eq_nil_iff]
    rintro (i | l) ho
    · exact absurd ho (hauth i)
    · rfl
  unfold configOptions ClientOption.lastAuth
  by_cases htoken : token = ""
  · have hempty : config.pat.truthy = false := by
      rw [hpat, htoken]
      rfl
    rw [hempty, if_pos htoken, if_neg (by decide), hnone]
    rfl
  · have htruthy : config.pat.truthy = true := by
      rw [hpat]
      simpa [Value.truthy] using htoken
    have honly : (ClientOption.auth (some (.personal config.pat)) :: options).filterMap
        ClientOption.auth? = [some (.personal config.pat)] := by
      rw [← hnone]
      rfl
    rw [if_pos htruthy, if_neg htoken, honly]
    change sourceOf (some (.personal config.pat)) = _
    unfold sourceOf Initializer.outcome
    dsimp only
    rw [if_pos htruthy, hpat]

/-- The own provider gives the token in every world. -/
lemma granted_configOptions (hauth : ∀ i, .auth i ∉ options) (hpat : config.pat = .text token)
    (w : World) :
    (ownProvider e (configOptions config options)).granted w = .ok (Metadata.bearer token) := by
  unfold ownProvider Provider.granted Metadata.bearer
  dsimp only
  rw [sourceOf_configOptions hauth hpat]
  by_cases htoken : token = ""
  · rw [if_pos htoken, if_pos htoken]
  · rw [if_neg htoken, if_neg htoken]
    have hheader : (TokenSource.fixed .personal { accessToken := .text token }).header
        (w.asks .personal) = .ok ("Bearer " ++ token) := rfl
    dsimp only
    rw [TokenSource.fixed] at hheader ⊢
    rw [hheader]
    rfl

end Served

end Client

section Carrying

variable {token : String} {interceptors : List Interceptor} {call : Call} {p : Provider}

lemma Metadata.IssuedBy.filter_isSome {m : Metadata} (h : m.IssuedBy []) :
    m.filter (·.issuer.isSome) = [] := by
  rw [List.filter_eq_nil_iff]
  intro entry hentry hissued
  obtain ⟨n, hn⟩ := Option.isSome_iff_exists.mp hissued
  exact absurd (h entry hentry n hn) List.not_mem_nil

lemma issuers_eq_nil (hnone : ∀ i ∈ interceptors, i.provider? = none) :
    interceptors.filterMap Interceptor.issuer? = [] := by
  rw [List.filterMap_eq_nil_iff]
  intro i hi
  have hprovider := hnone i hi
  cases i with
  | authorizing q =>
    rw [show q = none from hprovider]
    rfl
  | _ => rfl

/-- What a call carries is known if the provider always grants the same. -/
lemma Effect.Delivers.brings {number : ℕ} {effect : Effect}
    (h : effect.Delivers number (some p) interceptors call)
    (hp : ∀ w, p.granted w = .ok (Metadata.bearer token)) :
    effect.Brings (Metadata.bearer token) interceptors call := by
  cases h with
  | @intro d plugin granted parts hgranted hparts hcarried =>
    obtain ⟨w, hw⟩ := hgranted
    obtain rfl : granted = Metadata.bearer token := Except.ok.inj (hw.symm.trans (hp w))
    refine ⟨⟨parts, hparts, hcarried⟩, fun hnone => ?_⟩
    have hothers : Metadata.IssuedBy [] parts.flatten := by
      rw [← issuers_eq_nil hnone]
      exact issuedBy_flatten hparts
    have hfilter := hcarried.filter (·.issuer.isSome)
    rw [List.filter_append, List.filter_append, (Metadata.issuedBy_details call).filter_isSome,
      hothers.filter_isSome, List.nil_append, List.append_nil] at hfilter
    unfold Metadata.bearer at hfilter ⊢
    split
    · next hempty =>
      rw [if_pos hempty] at hfilter
      exact hfilter.eq_nil
    · next hempty =>
      rw [if_neg hempty] at hfilter
      exact List.perm_singleton.mp hfilter

variable {settings : DialSettings} {number : ℕ} {m : Metadata} {s : Surroundings} {w : World}

lemma Dial.arrival_of_granted (hp : ∀ w, p.granted w = .ok m) (t : Transport)
    (security : Security) (number : ℕ) (call : Call) (d : CallDetails) (w : World) :
    ∃ plugin, .call number call.kind call.request d plugin ∈
        (arrival t security (some p) number call d w).2 ∧
      (arrival t security (some p) number call d w).1 =
        t.exchange call.kind call.request d plugin := by
  cases security with
  | plaintext => exact ⟨none, List.mem_cons_self, rfl⟩
  | tls roots =>
    have hentries : Provider.entriesOf (some p) w = .ok m := hp w
    unfold arrival
    dsimp only
    rw [hentries]
    exact ⟨some m, List.mem_append_right _ List.mem_cons_self, rfl⟩

/-- With a provider that does not fail, a call is sent unless an interceptor of the caller fails. -/
lemma Dial.call_arrives (hsettings : settings.callCredentials = some p)
    (hp : ∀ w, p.granted w = .ok m) (hopen : w.isClosed number = false) (security : Security)
    (call : Call) :
    let out := ((channelOf security settings number).invoke call).perform s w
    (∃ d plugin, .call number call.kind call.request d plugin ∈ out.2.trace.drop w.trace.length ∧
        out.1 = s.transport.exchange call.kind call.request d plugin) ∨
      ∃ i ∈ settings.interceptors, ∃ x f, i.answer x = .error f ∧ out.1 = .error f ∧
        ∀ effect ∈ out.2.trace.drop w.trace.length, effect.isCall = false := by
  have hfront : ∃ first, Provider.entriesOf (front? security (some p)) w = .ok first := by
    cases security with
    | tls roots => exact ⟨[], rfl⟩
    | plaintext => exact ⟨m, hp w⟩
  obtain ⟨first, hfirst⟩ := hfront
  have hgoes : Goes s.transport security (some p) settings.interceptors number call w
      (((channelOf security settings number).invoke call).perform s w) := by
    rw [Channel.invoke, channelOf_interceptors, interceptors_eq_append, perform_through_front,
      hsettings, hfirst]
    exact goes_through settings hsettings hopen hfirst
  dsimp only
  generalize ((channelOf security settings number).invoke call).perform s w = out at hgoes
  cases hgoes with
  | refused hes hrefused hcall =>
    rw [hfirst] at hrefused
    cases hrefused
  | @failed first xs earlier x f es hes hgranted hturn hlast hf hcall =>
    right
    have hmem : x.interceptor ∈ settings.interceptors := by
      have hx : x.interceptor ∈ xs.map (·.interceptor) :=
        List.mem_map_of_mem (by rw [hlast]; simp)
      exact List.mem_of_mem_filter (hturn.order.subset hx)
    refine ⟨x.interceptor, hmem, x.before, f, hf, rfl, ?_⟩
    unfold World.did
    rw [List.drop_left]
    exact hcall
  | @arrives first xs d es log hes hgranted hturn hall hok hcall hd =>
    left
    obtain ⟨plugin, hsent, houtcome⟩ :=
      arrival_of_granted hp s.transport security number call d (w.did es)
    refine ⟨d, plugin, ?_, houtcome⟩
    unfold World.did
    rw [List.drop_left]
    exact List.mem_append_right es hsent

end Carrying

namespace Client

section Serving

variable {options : List ClientOption} {config : Config} {token : String} {s : Surroundings}
  {w v : World} {c : Client}

/-- The client of a config has the own provider in effect, with what the config sets. -/
lemma channel_of_ofConfig (hkeep : ∀ o ∈ ClientOption.dialOptions options, o.provider? = none)
    (h : (ofConfig config options).perform s w = (.ok c, v)) :
    ∃ e security settings number, c.channel = Dial.channelOf security settings number ∧
      settings.callCredentials = some (ownProvider e (configOptions config options)) ∧
      settings.interceptors = ClientOption.interceptors options ∧ c.Intact := by
  have hdial : ClientOption.dialOptions (configOptions config options) =
      ClientOption.dialOptions options := by
    unfold configOptions
    split <;> rfl
  unfold ofConfig at h
  obtain ⟨e, u, -, hconnect⟩ := Action.perform_bind_eq_ok.mp h
  obtain ⟨security, -, hchannel, hintact, -⟩ := connect_eq_ok hconnect
  refine ⟨e, security, _, _, hchannel, ?_, ?_, hintact⟩
  · rw [DialOption.ofOptions_callCredentials]
    exact lastProvider_of_none (by rwa [hdial])
  · rw [DialOption.ofOptions_interceptors]
    change ClientOption.interceptors (configOptions config options) = _
    unfold ClientOption.interceptors
    rw [hdial]

/-- Every use of a client of a config, call by call. -/
lemma brings_of_ofConfig (hauth : ∀ i, .auth i ∉ options)
    (hkeep : ∀ o ∈ ClientOption.dialOptions options, o.provider? = none)
    (hpat : config.pat = .text token)
    (h : (ofConfig config options).perform s w = (.ok c, v)) (r : Surroundings) (u : World)
    (uses : List Use) :
    List.Forall₂ (fun (a : Use) (o : Observation (Option Reply)) => ∀ effect ∈ o.effects,
        effect.isCall = true → ∃ accessor call, a = .call accessor call ∧
          effect.Brings (Metadata.bearer token) (ClientOption.interceptors options) call)
      uses (session use r c u uses) := by
  obtain ⟨e, security, settings, number, hchannel, hsettings, hinterceptors, hintact⟩ :=
    channel_of_ofConfig hkeep h
  refine (session_does hintact u uses).imp ?_
  intro a o hdoes effect heffect hcall
  have hdone : a.Does c.channel effect := hdoes effect heffect
  cases a with
  | close =>
    rw [show effect = .close c.channel.number from hdone] at hcall
    cases hcall
  | call accessor call =>
    have hmade : c.channel.Does call effect := hdone
    rw [hchannel] at hmade
    have hdelivers := hmade.delivers hcall
    rw [hsettings, hinterceptors] at hdelivers
    exact ⟨accessor, call, rfl, hdelivers.brings (granted_configOptions hauth hpat)⟩

/-- A call through a stub or on the channel, as long as the channel is open. -/
lemma call_arrives_of_ofConfig (hauth : ∀ i, .auth i ∉ options)
    (hkeep : ∀ o ∈ ClientOption.dialOptions options, o.provider? = none)
    (hpat : config.pat = .text token)
    (h : (ofConfig config options).perform s w = (.ok c, v)) (r : Surroundings) {u : World}
    (hopen : u.isClosed c.channel.number = false) {accessor : Option String}
    (haccessor : refusal? accessor = none) (call : Call) :
    let o := observe use r c u (.call accessor call)
    o.Arrived r.transport call ∨
      ∃ i ∈ ClientOption.interceptors options, ∃ x f, i.answer x = .error f ∧
        o.outcome = .error f ∧ ∀ effect ∈ o.effects, effect.isCall = false := by
  obtain ⟨e, security, settings, number, hchannel, hsettings, hinterceptors, hintact⟩ :=
    channel_of_ofConfig hkeep h
  rw [hchannel, Dial.channelOf_number] at hopen
  have harrives := Dial.call_arrives (s := r) hsettings (granted_configOptions hauth hpat) hopen
    security call
  rw [← hchannel, hinterceptors] at harrives
  have hrun : (c.use (.call accessor call)).perform r u = _ := perform_use_call hintact accessor
  rw [haccessor] at hrun
  dsimp only at hrun
  unfold observe Observation.effects
  rw [hrun]
  obtain ⟨d, plugin, hsent, houtcome⟩ | ⟨i, hi, x, f, hf, hfailed, hnone⟩ := harrives
  · left
    refine ⟨number, d, plugin, hsent, ?_⟩
    rw [houtcome]
    cases r.transport.exchange call.kind call.request d plugin <;> rfl
  · right
    refine ⟨i, hi, x, f, hf, ?_, hnone⟩
    rw [hfailed]
    rfl

end Serving

/-- If the options of the caller set an initializer, or set none, the token of a config makes no
difference: a client is what the caller's options alone make of the endpoint, and it stays the same
in all its uses, also if two processes have settings that differ in the token. If the caller sets
neither an initializer nor a provider, each call carries the token, or nothing of a provider if the
token is empty, and a call on the open channel is sent and ends as the transport says, unless an
interceptor of the caller fails. -/
theorem explicit_auth_hides_configured_token (options : List ClientOption) :
    (∀ i, .auth i ∈ options →
      (∀ config, ofConfig config options = (do
        let e ← Action.ofExcept (Endpoint.ofConfig config)
        connect e options config.timeout)) ∧
      (∀ (config : Config) token s r w uses,
        lifetime (ofConfig { config with pat := token } options) s r w uses =
          lifetime (ofConfig config options) s r w uses) ∧
      ∀ s r (w : World) p uses,
        SameOutcome (fun l l' => ∃ token, l'.config = { l.config with pat := token })
          (Settings.current.perform w.store).1 (Settings.current.perform p).1 →
        (lifetime (ofSettings options) s r w uses).SameButStore
          (lifetime (ofSettings options) s r (w.withStore p) uses)) ∧
    ((∀ i, .auth i ∉ options) →
      (∀ o ∈ ClientOption.dialOptions options, o.provider? = none) →
      ∀ (config : Config) token s w c v, config.pat = .text token →
        (ofConfig config options).perform s w = (.ok c, v) →
        (∀ r u uses, List.Forall₂
          (fun (a : Use) (o : Observation (Option Reply)) => ∀ effect ∈ o.effects,
            effect.isCall = true → ∃ accessor call, a = .call accessor call ∧
              effect.Brings (Metadata.bearer token) (ClientOption.interceptors options) call)
          uses (session use r c u uses)) ∧
        ∀ r u accessor call, u.isClosed c.channel.number = false → refusal? accessor = none →
          let o := observe use r c u (.call accessor call)
          o.Arrived r.transport call ∨
            ∃ i ∈ ClientOption.interceptors options, ∃ x f, i.answer x = .error f ∧
              o.outcome = .error f ∧ ∀ effect ∈ o.effects, effect.isCall = false) := by
  refine ⟨fun i hi => ⟨ofConfig_of_auth hi, ?_, ?_⟩, ?_⟩
  · intro config token s r w uses
    rw [ofConfig_congr hi]
  · intro s r w p uses hloaded
    exact lifetime_sameButStore (ofSettings_withStore hi hloaded) r uses
  · intro hauth hkeep config token s w c v hpat h
    refine ⟨brings_of_ofConfig hauth hkeep hpat h, ?_⟩
    intro r u accessor call hopen haccessor
    exact call_arrives_of_ofConfig hauth hkeep hpat h r hopen haccessor call

namespace Overruled

/-! A plaintext instance with a token in its config, once overruled by no initializer at all. -/

def config (token : String) : Config :=
  { domain := .text "localhost", port := .text "8080", insecure := .bool true, pat := .text token }

def overruling : List ClientOption := [.auth none, .dial [.block]]

def silent : List ClientOption :=
  [.dial [.interceptors [.custom "trace" [.unaryUnary] [("trace", "on")] none]]]

def process (token : String) : World :=
  let common := Environment.ofList [("ZITADEL_DOMAIN", "localhost")]
  { store := { environment := common.set "ZITADEL_PAT" token } }

def channel : Channel := ⟨1, .plaintext, none, [
  .authorizing (some ⟨.own, .bool false, some (.fixed .personal { accessToken := .text "a" })⟩),
  .custom "trace" [.unaryUnary] [("trace", "on")] none]⟩

def client : Client := { channel, stubs := stubsOn channel }

def world : World := ((ofConfig (config "a") silent).perform {} {}).2

def call : Call := { kind := .unaryUnary, method := "/p.S/M", request := .text "r" }

def uses : List Use := [.call (some "admin_service") call, .close]

theorem overruled_token_is_not_sent :
    lifetime (ofConfig (config "") overruling) {} {} {} uses =
        lifetime (ofConfig (config "a") overruling) {} {} {} uses ∧
      (lifetime (ofSettings overruling) {} {} (process "a") uses).SameButStore
        (lifetime (ofSettings overruling) {} {} (process "") uses) ∧
      ((lifetime (ofSettings overruling) {} {} (process "a") uses).uses.map fun o =>
        o.effects.flatMap (·.carried)) = [[], []] ∧
      (ofConfig (config "a") silent).perform {} {} = (.ok client, world) ∧
      ((session use {} client world uses).map fun o => o.effects.flatMap (·.carried)) =
        [[⟨"authorization", "Bearer a", some .own⟩, ⟨"trace", "on", none⟩], []] ∧
      (∀ effect ∈ (observe use {} client world (.call (some "admin_service") call)).effects,
        effect.isCall = true → effect.carried.filter (·.issuer.isSome) = Metadata.bearer "a") ∧
      ∃ effect ∈ (observe use {} client world (.call (some "admin_service") call)).effects,
        effect.isCall = true := by
  obtain ⟨hidden, -⟩ := explicit_auth_hides_configured_token overruling
  obtain ⟨-, hconfigs, hsettings⟩ := hidden none List.mem_cons_self
  have hstores : (process "a").store.Differ "ZITADEL_PAT" "a" "" (process "").store :=
    ⟨.of_set _ _ _ _, rfl, rfl, rfl⟩
  have hfile : ¬ (process "a").store.RefersTo "ZITADEL_PAT" := by
    rintro ⟨-, bytes, cs, hbytes, -⟩
    have hnone : Settings.fileBytes (process "a").store = none := by rfl
    rw [hnone] at hbytes
    cases hbytes
  have hloaded := (Settings.current_differ hstores hfile).imp
    (R := fun l l' => ∃ token, l'.config = { l.config with pat := token })
    fun l l' hconfig => ⟨.text "", hconfig.2⟩
  obtain ⟨-, served⟩ := explicit_auth_hides_configured_token silent
  have hauth : ∀ i, .auth i ∉ silent := by
    intro i hi
    cases List.mem_singleton.mp hi
  have hkeep : ∀ o ∈ ClientOption.dialOptions silent, o.provider? = none := by
    intro o ho
    obtain rfl := List.mem_singleton.mp ho
    rfl
  have hbuilt : (ofConfig (config "a") silent).perform {} {} = (.ok client, world) :=
    Prod.ext (by rfl) rfl
  obtain ⟨hbrings, harrives⟩ := served hauth hkeep (config "a") "a" {} {} client world rfl hbuilt
  have hone := hbrings {} world [.call (some "admin_service") call]
  obtain ⟨hfirst, -⟩ := List.forall₂_cons.mp hone
  refine ⟨hconfigs (config "a") (.text "") {} {} {} uses,
    hsettings {} {} (process "a") (process "").store uses hloaded, by decide +kernel, hbuilt,
    by rfl, ?_, ?_⟩
  · intro effect heffect hcall
    obtain ⟨accessor, call', -, hcarries⟩ := hfirst effect heffect hcall
    refine hcarries.issued ?_
    intro i hi
    obtain rfl := List.mem_singleton.mp hi
    rfl
  · obtain hmade | ⟨i, hi, x, f, hf, -⟩ :=
      harrives {} world (some "admin_service") call (by rfl) (by rfl)
    · obtain ⟨number, d, plugin, hsent, -⟩ := hmade
      exact ⟨_, hsent, rfl⟩
    · obtain rfl := List.mem_singleton.mp hi
      cases hf

end Overruled

end Client

end SharedChannel
