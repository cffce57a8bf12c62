import SharedChannel.Proofs.CallAgreement
import SharedChannel.Proofs.LoadedToken

/-!
# Tokens stay in the header

Two clients that differ only in the tokens of their own providers cannot be told apart, but by the
values of the entries which these providers add to calls. Each function on the way from the options
to a call has one lemma that says so, by the rules of `Action.Alike`. The calls themselves follow
those of `Action.Leads`, since the transport is given the entries as they are.
-/

namespace SharedChannel

/-- Tokens that can both be written, or that cannot be for the same reason. -/
def Token.Alike (token token' : Token) : Prop :=
  SameOutcome (fun _ _ => True) token.authorization token'.authorization

/-- Sources of one name that give tokens at the same asks, and else the same failures. -/
structure TokenSource.Alike (t t' : TokenSource) : Prop where
  name : t.name = t'.name
  answer : ∀ n, SameOutcome Token.Alike (t.answer n) (t'.answer n)

/-- Values that both do for a personal access token. Both of them can be written, or neither. -/
structure Value.Exchangeable (p q : Value) : Prop where
  left : p.truthy = true
  right : q.truthy = true
  written : p.isOverlong = q.isOverlong

/-- Providers that are the same, or are both a client's own and have sources that are alike. -/
inductive Provider.Alike : Provider → Provider → Prop where
  | same (p : Provider) : Alike p p
  | own {tls : Value} {t t' : Option TokenSource} (h : Option.Rel TokenSource.Alike t t') :
    Alike ⟨.own, tls, t⟩ ⟨.own, tls, t'⟩

inductive Interceptor.Alike : Interceptor → Interceptor → Prop where
  | same (i : Interceptor) : Alike i i
  | authorizing {p q : Provider} (h : p.Alike q) :
    Alike (.authorizing (some p)) (.authorizing (some q))

inductive PluginAnswer.Alike : PluginAnswer → PluginAnswer → Prop where
  | granted {m m' : Metadata} (h : m.erase = m'.erase) : Alike (.granted m) (.granted m')
  | refused (f : Failure) : Alike (.refused f) (.refused f)

structure Channel.Alike (c c' : Channel) : Prop where
  number : c.number = c'.number
  security : c.security = c'.security
  plugin : Option.Rel Provider.Alike c.plugin c'.plugin
  interceptors : List.Forall₂ Interceptor.Alike c.interceptors c'.interceptors

section Calling

variable {s : Surroundings}

namespace CallDetails

variable {d d' : CallDetails}

end CallDetails

lemma Token.alike_refl (token : Token) : token.Alike token := .refl (fun _ => trivial) _

namespace Provider

variable {p q : Provider}

end Provider

namespace Channel

variable {c c' : Channel}

end Channel

end Calling

section Dialing

variable {s : Surroundings}

/-- Settings with providers that are alike, and otherwise the same. -/
structure DialSettings.Alike (d d' : DialSettings) : Prop where
  security : d.security = d'.security
  callCredentials : Option.Rel Provider.Alike d.callCredentials d'.callCredentials
  channelOptions : d.channelOptions = d'.channelOptions
  interceptors : d.interceptors = d'.interceptors
  compression : d.compression = d'.compression
  block : d.block = d'.block

lemma Provider.rel_refl (p : Option Provider) : Option.Rel Alike p p := by
  cases p with
  | none => exact .none
  | some p => exact .some (.same p)

namespace DialSettings.Alike

variable {d d' : DialSettings}

lemma apply (h : d.Alike d') (o : DialOption) :
    (DialOption.apply d o).Alike (DialOption.apply d' o) := by
  cases o with
  | transportCredentials security => exact { h with security := rfl }
  | perCallCredentials provider => exact { h with callCredentials := Provider.rel_refl provider }
  | channelOption name v =>
    exact { h with channelOptions := congrArg (· ++ [(name, v)]) h.channelOptions }
  | interceptors added => exact { h with interceptors := congrArg (· ++ added) h.interceptors }
  | compression algorithm => exact { h with compression := rfl }
  | block => exact { h with block := rfl }

lemma foldl (h : d.Alike d') (options : List DialOption) :
    (options.foldl DialOption.apply d).Alike (options.foldl DialOption.apply d') := by
  induction options generalizing d d' with
  | nil => exact h
  | cons o rest ih => exact ih (h.apply o)

/-- The caller's options, behind mandatory ones with providers that are alike. -/
lemma ofOptions {p q : Provider} (h : p.Alike q) (security : Option Security)
    (extra : List DialOption) :
    (DialSettings.ofOptions (DialOption.withMandatory security (some p) extra)).Alike
      (DialSettings.ofOptions (DialOption.withMandatory security (some q) extra)) := by
  have hmandatory : Alike { security, callCredentials := some p }
      { security, callCredentials := some q } := ⟨rfl, .some h, rfl, rfl, rfl, rfl⟩
  exact hmandatory.foldl extra

end DialSettings.Alike

namespace Dial

variable {d d' : DialSettings}

end Dial

end Dialing

lemma TokenSource.rel_refl (t : Option TokenSource) : Option.Rel Alike t t := by
  cases t with
  | none => exact .none
  | some t => exact .some ⟨rfl, fun n => .refl Token.alike_refl _⟩

/-- Initializers that are the same, or that have a personal access token each. -/
inductive Initializer.Alike : Option Initializer → Option Initializer → Prop where
  | same (i : Option Initializer) : Alike i i
  | personal {p q : Value} (h : p.Exchangeable q) :
    Alike (some (.personal p)) (some (.personal q))

namespace Client

/-- Clients that differ in the tokens of their own providers alone. -/
structure Alike (c c' : Client) : Prop where
  channel : c.channel.Alike c'.channel
  closed : c.closed = c'.closed
  left : c.Intact
  right : c'.Intact

end Client

/-- Two observed uses that differ in nothing but values of the own provider's entries, and in what
the transport may make of those. -/
structure Observation.Alike (t : Transport) (o o' : Observation (Option Reply)) : Prop where
  outcome : t.Blind → o.outcome = o'.outcome
  answer : t.SameAnswer some o.outcome o'.outcome
  effects : o.effects.map Effect.erase = o'.effects.map Effect.erase
  after : o.after.Alike o'.after

section Building

variable {s : Surroundings}

namespace Client

end Client

end Building

namespace Client

namespace Veiled

/-! Clients of one plaintext endpoint with different tokens, and processes that set it up. -/

def endpoint : Endpoint := ⟨.text "localhost", "8080", .bool false⟩

def options (token : String) : List ClientOption := [.auth (some (.personal (.text token)))]

def channel (token : String) : Channel :=
  ⟨1, .plaintext, none, [.authorizing (some ⟨.own, .bool false,
    some (.fixed .personal { accessToken := .text token })⟩)]⟩

def client (token : String) : Client :=
  { channel := channel token, stubs := stubsOn (channel token) }

def world (token : String) : World := ((connect endpoint (options token) .none).perform {} {}).2

def uses : List Use :=
  [.call none { kind := .unaryUnary, method := "/p.S/M", request := .text "r" }, .close]

def process (token : String) : World :=
  let common := Environment.ofList [("ZITADEL_DOMAIN", "localhost"), ("ZITADEL_PORT", "8080"),
    ("ZITADEL_INSECURE", "true")]
  { store := { environment := common.set "ZITADEL_PAT" token } }

end Veiled

end Client

end SharedChannel
