import SharedChannel.Proofs.LinearBuild
import SharedChannel.Proofs.OneAnswer

/-!
# A fresh token for each call

The calls of a client go through the answers of its token source one by one: a token travels with
one call, and a failure to get one fails one call. Later calls find the client as if the source had
given a token instead of the failure.
-/

namespace SharedChannel

/-- The observed call asks the token source once and gets its answer `n`, which decides it. If this
leads to a failure and not to a header value, callers see the failure on a plaintext channel, and on
a secure one where the transport passes failures on and this one can be reported to it. The channels
stay as they are. -/
structure Observation.Answered (transport : Transport) (security : Security) (t : TokenSource)
    (n number : ℕ) (call : Call) (o : Observation (Option Reply)) : Prop where
  asked : o.before.asks t.name = n
  decided : ∃ outcome, o.outcome = outcome.map some ∧
    Channel.Decides transport security t.name number call (t.header n) o.effects outcome
  failed : ∀ f, t.header n = .error f →
    (security = .plaintext ∨ transport.PassesOn ∧ (f.isOrdinary = true → f.isMute = false)) →
      o.outcome = .error f
  closed : o.after.closed = o.before.closed
  opened : o.after.opened = o.before.opened

namespace Client

section Calling

variable {e : Endpoint} {options options' : List ClientOption} {timeout : Value} {s : Surroundings}
  {w u : World} {c : Client} {t : TokenSource}

end Calling

namespace Relay

/-! Clients whose source fails or gives a token at first. -/

def endpoint (tls : Bool) : Endpoint := ⟨.text "localhost", "8080", .bool tls⟩

def failing : TokenSource :=
  .scripted (.given 0) (.error (.raised .runtime "x")) [.ok { accessToken := .text "B" }]

/-- An interceptor that asks a source of its own. -/
def authorizing : Interceptor :=
  .authorizing (some ⟨.labelled "z", .bool false, some (.rotating (.given 1) "p")⟩)

def options (i : Interceptor) (t : TokenSource) : List ClientOption :=
  [.auth (some (.custom "i" (.int 0) (.ok (some t)))), .dial [.interceptors [i]]]

def channel (tls : Bool) (i : Interceptor) (t : TokenSource) : Channel :=
  .serving (if tls then .tls .none else .plaintext) ⟨.own, .bool tls, some t⟩ [i] 1

def client (tls : Bool) (i : Interceptor) (t : TokenSource) : Client :=
  { channel := channel tls i t, stubs := stubsOn (channel tls i t) }

def world (tls : Bool) (i : Interceptor) (t : TokenSource) : World :=
  ((connect (endpoint tls) (options i t) .none).perform {} {}).2

/-- The same call twice, on the channel and through a stub. -/
def calls : List (Option String × Call) :=
  let call : Call := { kind := .unaryUnary, method := "/p.S/M", request := .text "r" }
  [(none, call), (some "admin_service", call)]

def seen (tls : Bool) (i : Interceptor) (t : TokenSource) : List (Observation (Option Reply)) :=
  session use {} (client tls i t) (world tls i failing) (calls.map fun a => .call a.1 a.2)

end Relay

end Client

end SharedChannel
