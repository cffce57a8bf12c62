import SharedChannel.Proofs.SharedConnection
import Mathlib.Logic.Relation

/-!
# What options come to

Many lists of options make the same client. `DialOption.Alike` compares lists of dial options by the
values that take effect, `ClientOption.Rearranges` lists the changes that a caller may make without
a difference, and `Client.alike_options_same_client` says that neither the building of a client nor
what is done with it later tells such lists apart.
-/

namespace SharedChannel

/-- What stands in front of an option that decides a value does not count. -/
lemma getLast?_cons_of_decided {α β : Type} {f : α → Option β} {x y : α} {l : List α}
    (hy : (f y).isSome = true) (hmem : y ∈ l) :
    ((x :: l).filterMap f).getLast? = (l.filterMap f).getLast? := by
  obtain ⟨b, hb⟩ := Option.isSome_iff_exists.mp hy
  have hne : l.filterMap f ≠ [] := List.ne_nil_of_mem (List.mem_filterMap.mpr ⟨y, hmem, hb⟩)
  cases hx : f x with
  | none => rw [List.filterMap_cons_none hx]
  | some c =>
    rw [List.filterMap_cons_some hx, List.getLast?_cons, List.getLast?_eq_some_getLast hne,
      Option.getD_some]

namespace DialOption

def compression? : DialOption → Option (Option Compression)
  | compression algorithm => some algorithm
  | _ => none

def addedArguments : DialOption → List (Value × Value)
  | channelOption name v => [(name, v)]
  | _ => []

def isBlock : DialOption → Bool
  | block => true
  | _ => false

/-- The compression in effect: that of the last option which sets it. -/
def lastCompression (options : List DialOption) : Option Compression :=
  (options.filterMap compression?).getLast?.join

lemma ofOptions_compression (options : List DialOption) :
    (DialSettings.ofOptions options).compression = lastCompression options := by
  rw [DialSettings.ofOptions, foldl_last_wins DialOption.apply DialSettings.compression compression?
    (by rintro x (_ | _ | _ | _ | _ | _) <;> rfl), lastCompression]
  cases (options.filterMap compression?).getLast? <;> rfl

lemma ofOptions_channelOptions (options : List DialOption) :
    (DialSettings.ofOptions options).channelOptions = options.flatMap addedArguments := by
  rw [DialSettings.ofOptions, foldl_accumulates DialOption.apply DialSettings.channelOptions
    addedArguments (by rintro x (_ | _ | _ | _ | _ | _) <;> simp [apply, addedArguments])]
  rfl

lemma foldl_block (options : List DialOption) (x : DialSettings) :
    (options.foldl DialOption.apply x).block = (x.block || options.any isBlock) := by
  induction options generalizing x with
  | nil => simp
  | cons o rest ih =>
    rw [List.foldl_cons, ih, List.any_cons, ← Bool.or_assoc]
    cases o <;> simp [apply, isBlock]

lemma ofOptions_block (options : List DialOption) :
    (DialSettings.ofOptions options).block = options.any isBlock := by
  rw [DialSettings.ofOptions, foldl_block]
  rfl

/-- Lists of the same length in which the last security, provider and compression, the channel
arguments, the interceptors, and whether to block are the same. -/
structure Alike (l m : List DialOption) : Prop where
  length : l.length = m.length
  security : (l.filterMap security?).getLast? = (m.filterMap security?).getLast?
  provider : (l.filterMap provider?).getLast? = (m.filterMap provider?).getLast?
  compression : lastCompression l = lastCompression m
  arguments : l.flatMap addedArguments = m.flatMap addedArguments
  interceptors : l.flatMap addedInterceptors = m.flatMap addedInterceptors
  block : l.any isBlock = m.any isBlock

/-- Lists that are alike come to the same settings behind the mandatory options. -/
lemma Alike.ofOptions_eq {l m : List DialOption} (h : Alike l m) (security : Option Security)
    (own : Option Provider) :
    DialSettings.ofOptions (withMandatory security own l) =
      DialSettings.ofOptions (withMandatory security own m) := by
  have hsecurity : lastSecurity (withMandatory security own l) =
      lastSecurity (withMandatory security own m) := by
    rw [lastSecurity_withMandatory, lastSecurity_withMandatory, h.security]
  have hprovider : lastProvider (withMandatory security own l) =
      lastProvider (withMandatory security own m) := by
    rw [lastProvider_withMandatory, lastProvider_withMandatory, h.provider]
  have hext : ∀ x y : DialSettings, x.security = y.security →
      x.callCredentials = y.callCredentials → x.channelOptions = y.channelOptions →
      x.interceptors = y.interceptors → x.compression = y.compression → x.block = y.block →
      x = y := by
    rintro ⟨_, _, _, _, _, _⟩ ⟨_, _, _, _, _, _⟩ rfl rfl rfl rfl rfl rfl
    rfl
  apply hext
  · rw [ofOptions_security, ofOptions_security, hsecurity]
  · rw [ofOptions_callCredentials, ofOptions_callCredentials, hprovider]
  · rw [ofOptions_channelOptions, ofOptions_channelOptions]
    exact h.arguments
  · rw [ofOptions_interceptors, ofOptions_interceptors]
    exact h.interceptors
  · rw [ofOptions_compression, ofOptions_compression]
    exact h.compression
  · rw [ofOptions_block, ofOptions_block]
    exact h.block

/-- What a dial option sets. -/
inductive Setting where
  | security
  | provider
  | argument
  | interceptors
  | compression
  | block
deriving DecidableEq

def setting : DialOption → Setting
  | transportCredentials _ => .security
  | perCallCredentials _ => .provider
  | channelOption .. => .argument
  | DialOption.interceptors _ => .interceptors
  | DialOption.compression _ => .compression
  | DialOption.block => .block

/-- A setting of which only the last value counts. -/
def Setting.isSingle : Setting → Bool
  | security | provider | compression => true
  | argument | interceptors | block => false

/-- Lists that are alike in front of and behind all other options too, where an option which sets
no compression is not the same as none. -/
structure Exchangeable (l m : List DialOption) : Prop extends Alike l m where
  last : (l.filterMap compression?).getLast? = (m.filterMap compression?).getLast?

namespace Exchangeable

variable {l m l' m' : List DialOption}

lemma refl (l : List DialOption) : Exchangeable l l :=
  ⟨⟨rfl, rfl, rfl, rfl, rfl, rfl, rfl⟩, rfl⟩

lemma append (h : Exchangeable l m) (h' : Exchangeable l' m') :
    Exchangeable (l ++ l') (m ++ m') := by
  have hlast : ∀ {β : Type} (f : DialOption → Option β),
      (l.filterMap f).getLast? = (m.filterMap f).getLast? →
      (l'.filterMap f).getLast? = (m'.filterMap f).getLast? →
      ((l ++ l').filterMap f).getLast? = ((m ++ m').filterMap f).getLast? := by
    intro β f hf hf'
    rw [List.filterMap_append, List.filterMap_append, List.getLast?_append, List.getLast?_append,
      hf, hf']
  have hcompression := hlast compression? h.last h'.last
  refine ⟨⟨?_, ?_, ?_, ?_, ?_, ?_, ?_⟩, hcompression⟩
  · rw [List.length_append, List.length_append, h.length, h'.length]
  · exact hlast security? h.security h'.security
  · exact hlast provider? h.provider h'.provider
  · rw [lastCompression, lastCompression, hcompression]
  · rw [List.flatMap_append, List.flatMap_append, h.arguments, h'.arguments]
  · rw [List.flatMap_append, List.flatMap_append, h.interceptors, h'.interceptors]
  · rw [List.any_append, List.any_append, h.block, h'.block]

/-- Options that set different things may change places. -/
lemma swap {x y : DialOption} (h : x.setting ≠ y.setting) : Exchangeable [x, y] [y, x] := by
  cases x <;> cases y <;>
    first
    | exact absurd rfl h
    | exact ⟨⟨rfl, rfl, rfl, rfl, rfl, rfl, rfl⟩, rfl⟩

/-- Of a single setting only the last value counts. -/
lemma overwrite {x x' y : DialOption} (hx : x.setting.isSingle = true)
    (hx' : x'.setting = x.setting) (hy : y.setting = x.setting) (hmem : y ∈ l) :
    Exchangeable (x :: l) (x' :: l) := by
  have hlast : ∀ {β : Type} (f : DialOption → Option β), (f y).isSome = true →
      ((x :: l).filterMap f).getLast? = ((x' :: l).filterMap f).getLast? := by
    intro β f hf
    rw [getLast?_cons_of_decided hf hmem, getLast?_cons_of_decided hf hmem]
  cases x with
  | transportCredentials security =>
    cases x' <;> cases hx'
    cases y <;> cases hy
    exact ⟨⟨rfl, hlast security? rfl, rfl, rfl, rfl, rfl, rfl⟩, rfl⟩
  | perCallCredentials provider =>
    cases x' <;> cases hx'
    cases y <;> cases hy
    exact ⟨⟨rfl, rfl, hlast provider? rfl, rfl, rfl, rfl, rfl⟩, rfl⟩
  | compression algorithm =>
    cases x' <;> cases hx'
    cases y <;> cases hy
    have hcompression := hlast compression? rfl
    refine ⟨⟨rfl, rfl, rfl, ?_, rfl, rfl, rfl⟩, hcompression⟩
    rw [lastCompression, lastCompression, hcompression]
  | _ => cases hx

end Exchangeable

end DialOption

namespace ClientOption

/-- Lists of options with the same initializer in effect and dial options that are alike. -/
structure Alike (options options' : List ClientOption) : Prop where
  auth : lastAuth options = lastAuth options'
  dial : DialOption.Alike (dialOptions options) (dialOptions options')

open DialOption in
/-- Changes to a list of options without a difference: dial options are given in one group or two,
the initializer before them or after them, options that set different things in another order, and
values that do not count are replaced. -/
inductive Rearranges : List ClientOption → List ClientOption → Prop where
  | regroup (before : List ClientOption) (l m : List DialOption) (after : List ClientOption) :
      Rearranges (before ++ .dial (l ++ m) :: after) (before ++ .dial l :: .dial m :: after)
  | moveAuth (before : List ClientOption) (i : Option Initializer) (l : List DialOption)
      (after : List ClientOption) :
      Rearranges (before ++ .auth i :: .dial l :: after) (before ++ .dial l :: .auth i :: after)
  | swap (before : List ClientOption) (l m : List DialOption) (after : List ClientOption)
      {x y : DialOption} (h : x.setting ≠ y.setting) :
      Rearranges (before ++ .dial (l ++ x :: y :: m) :: after)
        (before ++ .dial (l ++ y :: x :: m) :: after)
  | overwrite (before : List ClientOption) (l m : List DialOption) (after : List ClientOption)
      {x x' y : DialOption} (hx : x.setting.isSingle = true) (hx' : x'.setting = x.setting)
      (hy : y.setting = x.setting) (hmem : y ∈ m ++ dialOptions after) :
      Rearranges (before ++ .dial (l ++ x :: m) :: after) (before ++ .dial (l ++ x' :: m) :: after)
  | overwriteAuth (before after : List ClientOption) (i i' : Option Initializer)
      {j : Option Initializer} (hmem : .auth j ∈ after) :
      Rearranges (before ++ .auth i :: after) (before ++ .auth i' :: after)

variable {options options' : List ClientOption}

lemma dialOptions_append (options options' : List ClientOption) :
    dialOptions (options ++ options') = dialOptions options ++ dialOptions options' :=
  List.flatMap_append

lemma lastAuth_congr {before after after' : List ClientOption}
    (h : (after.filterMap auth?).getLast? = (after'.filterMap auth?).getLast?) :
    lastAuth (before ++ after) = lastAuth (before ++ after') := by
  rw [lastAuth, lastAuth, List.filterMap_append, List.filterMap_append, List.getLast?_append,
    List.getLast?_append, h]

namespace Alike

lemma refl (options : List ClientOption) : Alike options options :=
  ⟨rfl, ⟨rfl, rfl, rfl, rfl, rfl, rfl, rfl⟩⟩

lemma symm (h : Alike options options') : Alike options' options :=
  ⟨h.auth.symm, h.dial.length.symm, h.dial.security.symm, h.dial.provider.symm,
    h.dial.compression.symm, h.dial.arguments.symm, h.dial.interceptors.symm, h.dial.block.symm⟩

lemma trans {options'' : List ClientOption} (h : Alike options options')
    (h' : Alike options' options'') : Alike options options'' :=
  ⟨h.auth.trans h'.auth, h.dial.length.trans h'.dial.length,
    h.dial.security.trans h'.dial.security, h.dial.provider.trans h'.dial.provider,
    h.dial.compression.trans h'.dial.compression, h.dial.arguments.trans h'.dial.arguments,
    h.dial.interceptors.trans h'.dial.interceptors, h.dial.block.trans h'.dial.block⟩

/-- Behind the same options, lists with the same last initializer and dial options to exchange. -/
lemma of_append (before : List ClientOption) {after after' : List ClientOption}
    (hauth : (after.filterMap auth?).getLast? = (after'.filterMap auth?).getLast?)
    (hdial : DialOption.Exchangeable (dialOptions after) (dialOptions after')) :
    Alike (before ++ after) (before ++ after') := by
  refine ⟨lastAuth_congr hauth, ?_⟩
  rw [dialOptions_append, dialOptions_append]
  exact ((DialOption.Exchangeable.refl _).append hdial).toAlike

end Alike

/-- One change of the kinds listed keeps what takes effect. -/
lemma Rearranges.alike (h : Rearranges options options') : Alike options options' := by
  cases h with
  | regroup before l m after =>
    refine .of_append before rfl ?_
    have hdial : dialOptions (.dial (l ++ m) :: after) =
        dialOptions (.dial l :: .dial m :: after) := List.append_assoc l m _
    rw [hdial]
    exact .refl _
  | moveAuth before i l after =>
    exact .of_append before rfl (.refl _)
  | swap before l m after hxy =>
    have hswap := (DialOption.Exchangeable.swap hxy).append (.refl m)
    exact .of_append before rfl (((DialOption.Exchangeable.refl l).append hswap).append (.refl _))
  | @overwrite before l m after x x' y hx hx' hy hmem =>
    have hgroup : ∀ o, dialOptions (.dial (l ++ o :: m) :: after) =
        l ++ o :: (m ++ dialOptions after) := fun o => List.append_assoc l (o :: m) _
    refine .of_append before rfl ?_
    rw [hgroup, hgroup]
    exact (DialOption.Exchangeable.refl l).append (.overwrite hx hx' hy hmem)
  | overwriteAuth before after i i' hmem =>
    have hlast : ∀ i, ((.auth i :: after).filterMap auth?).getLast? =
        (after.filterMap auth?).getLast? := fun i => getLast?_cons_of_decided rfl hmem
    exact .of_append before ((hlast i).trans (hlast i').symm) (.refl _)

end ClientOption

namespace Client

variable {e : Endpoint} {options options' : List ClientOption} {timeout : Value} {s : Surroundings}
  {w v : World} {c : Client}

lemma summary_congr {x y : ClientSettings} (h : x.dialOptions.length = y.dialOptions.length)
    (source : Option TokenSource) : summary e x source = summary e y source := by
  unfold summary
  rw [h]

lemma obtainSource_congr {x y : ClientSettings} (h : x.initializer = y.initializer)
    (deadline : Option Binary64) :
    obtainSource e x timeout deadline = obtainSource e y timeout deadline := by
  unfold obtainSource
  rw [h]

lemma newConnection_congr {l m : List DialOption} (h : DialOption.Alike l m)
    (source : Option TokenSource) (budget : Value) :
    newConnection e source l budget = newConnection e source m budget := by
  unfold newConnection dial
  simp only [h.ofOptions_eq]

/-- Building a client reads nothing off its options but what takes effect. -/
theorem connect_congr (h : ClientOption.Alike options options') (e : Endpoint) (timeout : Value) :
    connect e options timeout = connect e options' timeout := by
  have hauth : (ClientSettings.ofOptions options).initializer =
      (ClientSettings.ofOptions options').initializer := by
    rw [ClientOption.ofOptions_initializer, ClientOption.ofOptions_initializer, h.auth]
  have hdial : DialOption.Alike (ClientSettings.ofOptions options).dialOptions
      (ClientSettings.ofOptions options').dialOptions := by
    rw [ClientOption.ofOptions_dialOptions, ClientOption.ofOptions_dialOptions]
    exact h.dial
  unfold connect
  simp only [obtainSource_congr hauth, summary_congr hdial.length, newConnection_congr hdial]

/-- The options name the initializer that is run, if one is run. -/
def MayInitialize (options : List ClientOption) (label : String) : Prop :=
  ∃ takes outcome, ClientOption.lastAuth options = some (.custom label takes outcome)

/-- The source is that of the provider in effect, or of an interceptor that authorizes by itself. -/
def MayAsk (e : Endpoint) (options : List ClientOption) (x : SourceName) : Prop :=
  ∃ p t, (DialOption.lastProvider (allDialOptions e options) = some p ∨
      .authorizing (some p) ∈ ClientOption.interceptors options) ∧
    p.source = some t ∧ t.name = x

/-- An effect that runs no initializer and asks no source but those in effect. -/
def Untouched (e : Endpoint) (options : List ClientOption) : Effect → Prop
  | .initialization label _ _ => MayInitialize options label
  | .ask x => MayAsk e options x
  | _ => True

lemma untouched_of_connect (e : Endpoint) (options : List ClientOption) (timeout : Value)
    (s : Surroundings) (w : World) :
    ∃ effects, ((connect e options timeout).perform s w).2.trace = w.trace ++ effects ∧
      ∀ effect ∈ effects, (∀ x, effect ≠ .ask x) ∧ Untouched e options effect := by
  obtain ⟨effects, htrace, heffects⟩ := connect_effects e options timeout s w
  refine ⟨effects, htrace, fun effect heffect => ?_⟩
  obtain rfl | ⟨x, hplan, hmem, hphase⟩ := heffects effect heffect
  · refine ⟨?_, trivial⟩
    intro y hy
    cases hy
  · have hexpected := plan_expected e options timeout s w x hplan
    have hask : ∀ y, effect ≠ .ask y := by
      rintro y rfl
      cases hphase
    refine ⟨hask, ?_⟩
    cases effect with
    | initialization label origin budget =>
      rw [Expected, ← Option.some.inj hphase] at hexpected
      obtain hnil | ⟨label', takes, outcome, budget', hauth, heffects⟩ := hexpected
      · rw [hnil] at hmem
        cases hmem
      · rw [heffects, List.mem_singleton] at hmem
        cases hmem
        exact ⟨takes, outcome, hauth⟩
    | ask y => exact absurd rfl (hask y)
    | _ => trivial

lemma providers_channelOf {security : Security} {d : DialSettings} {number : ℕ} {p : Provider}
    (hp : p ∈ (Dial.channelOf security d number).providers) :
    d.callCredentials = some p ∨ .authorizing (some p) ∈ d.interceptors := by
  have hinterceptor : ∀ i : Interceptor, i.provider? = some p → i = .authorizing (some p) := by
    intro i hi
    cases i with
    | authorizing q =>
      rw [show q = some p from hi]
    | _ => cases hi
  have hplugin : p ∈ d.callCredentials.toList → d.callCredentials = some p := by simp
  rw [Channel.providers, List.mem_append, List.mem_filterMap] at hp
  cases security with
  | tls roots =>
    obtain hp | ⟨i, hi, hip⟩ := hp
    · exact .inl (hplugin hp)
    · rw [hinterceptor i hip] at hi
      exact .inr hi
  | plaintext =>
    obtain hp | ⟨i, hi, hip⟩ := hp
    · cases hp
    · rw [hinterceptor i hip] at hi
      obtain hi | hi := List.mem_append.mp hi
      · obtain ⟨q, hq, heq⟩ := List.mem_map.mp hi
        cases heq
        exact .inl (hplugin hq)
      · exact .inr hi

lemma untouched_of_session (h : (connect e options timeout).perform s w = (.ok c, v))
    (r : Surroundings) (u : World) (uses : List Use) :
    ∀ o ∈ session use r c u uses, ∀ effect ∈ o.effects, Untouched e options effect := by
  obtain ⟨security, -, hchannel, hintact, -⟩ := connect_eq_ok h
  intro o ho effect heffect
  obtain ⟨a, -, hdoes⟩ := exists_of_mem_forall₂ (session_does hintact u uses) ho
  have hdone : a.Does c.channel effect := hdoes effect heffect
  cases a with
  | close =>
    rw [show effect = .close c.channel.number from hdone]
    trivial
  | call accessor call =>
    have hmade : c.channel.Does call effect := hdone
    rw [hchannel] at hmade
    cases hmade with
    | @ask p t hp ht =>
      have hprovider := providers_channelOf hp
      rw [DialOption.ofOptions_callCredentials, DialOption.ofOptions_interceptors] at hprovider
      exact ⟨p, t, hprovider, ht, rfl⟩
    | _ => trivial

/-- Nobody can tell clients of one list of options from clients of the other: building comes to the
same, and so does every later session. -/
structure SameClients (e : Endpoint) (options options' : List ClientOption) : Prop where
  build : ∀ timeout s w,
    (connect e options timeout).perform s w = (connect e options' timeout).perform s w
  later : ∀ timeout s w c v c' v', (connect e options timeout).perform s w = (.ok c, v) →
    (connect e options' timeout).perform s w = (.ok c', v') →
    ∀ r uses, session use r c v uses = session use r c' v' uses

lemma sameClients_of_alike (h : ClientOption.Alike options options') (e : Endpoint) :
    SameClients e options options' := by
  have hconnect := connect_congr h e
  refine ⟨fun timeout s w => by rw [hconnect], ?_⟩
  intro timeout s w c v c' v' hbuilt hbuilt' r uses
  rw [hconnect, hbuilt'] at hbuilt
  obtain ⟨hc, rfl⟩ := Prod.ext_iff.mp hbuilt
  obtain rfl := Except.ok.inj hc
  rfl

lemma alike_of_rearranged (h : Relation.EqvGen ClientOption.Rearranges options options') :
    ClientOption.Alike options options' := by
  induction h with
  | rel options options' hstep => exact hstep.alike
  | refl options => exact .refl options
  | symm options options' _ ih => exact ih.symm
  | trans options options' options'' _ _ ih ih' => exact ih.trans ih'

/-- Lists of options with the same values in effect make the same clients. So do lists that callers
get from one another by regrouping dial options, by moving the initializer, by exchanging options
that set different things, and by changing values that later options overwrite. No initializer is
run and no source asked but those in effect. -/
theorem alike_options_same_client (e : Endpoint) (options options' : List ClientOption) :
    (ClientOption.Alike options options' → SameClients e options options') ∧
      (Relation.EqvGen ClientOption.Rearranges options options' →
        SameClients e options options') ∧
      ∀ timeout s w,
        (∃ effects, ((connect e options timeout).perform s w).2.trace = w.trace ++ effects ∧
          ∀ effect ∈ effects, (∀ x, effect ≠ .ask x) ∧ Untouched e options effect) ∧
        ∀ c v, (connect e options timeout).perform s w = (.ok c, v) → ∀ r u uses,
          ∀ o ∈ session use r c u uses, ∀ effect ∈ o.effects, Untouched e options effect := by
  refine ⟨fun h => sameClients_of_alike h e, ?_, fun timeout s w => ⟨?_, ?_⟩⟩
  · exact fun h => sameClients_of_alike (alike_of_rearranged h) e
  · exact untouched_of_connect e options timeout s w
  · exact fun c v h => untouched_of_session h

namespace Rearranged

/-! One client from two lists: other groups, another order, other values that do not count. -/

open Crowded (endpoint labelled)

def trace : Interceptor := .custom "trace" [.unaryUnary] [("trace", "on")] none

def scattered : List ClientOption := [
  .dial [.perCallCredentials (some (labelled "a" 0)), .block],
  .auth (some (.custom "old" (.int 1) (.ok none))),
  .dial [.interceptors [trace], .perCallCredentials (some (labelled "b" 1))],
  .auth (some (.personal (.text "pat"))),
  .dial [.userAgent (.text "agent")]]

def gathered : List ClientOption := [
  .auth (some (.personal (.text "pat"))),
  .dial [.perCallCredentials none, .userAgent (.text "agent"), .interceptors [trace],
    .perCallCredentials (some (labelled "b" 1)), .block]]

def channel : Channel := ⟨1, .tls .none, some (labelled "b" 1), [trace]⟩

def client : Client := { channel, stubs := stubsOn channel }

def world : World := ((connect endpoint scattered .none).perform {} {}).2

def uses : List Use := [
  .call (some "user_service_v2") { kind := .unaryUnary, method := "/p.S/M", request := .text "r" },
  .close]

theorem gathered_same_client :
    (connect endpoint scattered .none).perform {} {} = (.ok client, world) ∧
      (connect endpoint gathered .none).perform {} {} = (.ok client, world) ∧
      SameClients endpoint gathered scattered ∧
      ((session use {} client world uses).map fun o => o.effects.countP (Effect.isAsk (.given 1))) =
        [1, 0] ∧
      ∀ o ∈ session use {} client world uses, ∀ effect ∈ o.effects,
        Untouched endpoint scattered effect := by
  have halike : ClientOption.Alike gathered scattered := ⟨rfl, rfl, rfl, rfl, rfl, rfl, rfl, rfl⟩
  obtain ⟨hsame, -, -⟩ := alike_options_same_client endpoint gathered scattered
  obtain ⟨-, -, huntouched⟩ := alike_options_same_client endpoint scattered gathered
  have hconnect : (connect endpoint scattered .none).perform {} {} = (.ok client, world) :=
    Prod.ext (by rfl) rfl
  refine ⟨hconnect, ?_, hsame halike, by rfl, ?_⟩
  · rw [(hsame halike).build]
    exact hconnect
  · exact (huntouched .none {} {}).2 client world hconnect {} world uses

end Rearranged

end Client

end SharedChannel
