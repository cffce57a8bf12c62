import SharedChannel.Proofs.CallAgreement
import SharedChannel.Proofs.Issuers

/-!
# A call is decided by one answer

A call through a channel with the client's own provider asks the token source once, on both kinds of
channel, and what comes of the call is decided by the answer. What the interceptors of the caller
add depends on the call and on how often sources were asked before it (`Channel.exists_through`),
and so do all effects of the call, once the answer is given (`Channel.exists_runsTo`).
-/

namespace SharedChannel

namespace Metadata

/-- No entry comes from the client's own provider. -/
def Foreign (m : Metadata) : Prop := ∀ entry ∈ m, entry.isOwn = false

variable {l m : Metadata}

lemma Foreign.append (hl : Foreign l) (hm : Foreign m) : Foreign (l ++ m) := by
  rw [Foreign, List.forall_mem_append]
  exact ⟨hl, hm⟩

end Metadata

/-- An effect that is neither a call nor an ask of the source of the given name. -/
def Effect.IsAside (name : SourceName) (e : Effect) : Prop :=
  e.isCall = false ∧ e.isAsk name = false

section Aside

variable {name : SourceName} {es : List Effect}

lemma countP_isAsk_of_aside (h : ∀ e ∈ es, e.IsAside name) :
    es.countP (Effect.isAsk name) = 0 := by
  rw [List.countP_eq_zero]
  intro e he
  simp [(h e he).2]

end Aside

/-- How often sources were asked, after further effects. -/
def asksAfter (asks : SourceName → ℕ) (es : List Effect) : SourceName → ℕ :=
  fun x => asks x + es.countP (Effect.isAsk x)

lemma asks_append (w : World) (es : List Effect) (log : List Logging.Record) :
    World.asks { w with trace := w.trace ++ es, log } = asksAfter w.asks es := by
  funext x
  rw [World.asks, List.countP_append, asksAfter, World.asks]

namespace Interceptor

/-- The token source that an interceptor asks, if it asks one. -/
def source? : Interceptor → Option TokenSource
  | authorizing p => p.bind (·.source)
  | _ => none

variable {i : Interceptor} {name : SourceName}

end Interceptor

namespace Channel

variable {interceptors : List Interceptor} {name : SourceName}

end Channel

/-- The one entry of the client's own provider, with the given value. -/
def Provider.ownEntry (value : String) : Entry := ⟨authorizationKey, value, some .own⟩

/-- The provider is the client's own, and the next ask of its source, which has the given name,
leads to this. -/
structure Provider.Gives (p : Provider) (name : SourceName) (answer : Except Failure String)
    (w : World) : Prop where
  own : p.name = .own
  source : ∃ t, p.source = some t ∧ t.name = name ∧ t.header (w.asks name) = answer

namespace Provider.Gives

variable {p : Provider} {name : SourceName} {answer : Except Failure String} {w : World}

lemma granted (h : p.Gives name answer w) :
    p.granted w = answer.map fun value => [ownEntry value] := by
  obtain ⟨t, ht, rfl, rfl⟩ := h.source
  rw [Provider.granted, ht, h.own]
  rfl

lemma asking (h : p.Gives name answer w) : p.asking = [.ask name] := by
  obtain ⟨t, ht, rfl, -⟩ := h.source
  rw [Provider.asking, ht]
  rfl

lemma after (h : p.Gives name answer w) {es : List Effect} (haside : ∀ e ∈ es, e.IsAside name) :
    p.Gives name answer { w with trace := w.trace ++ es } := by
  refine ⟨h.own, ?_⟩
  have hasks := congrFun (asks_append w es w.log) name
  rw [asksAfter, countP_isAsk_of_aside haside, Nat.add_zero] at hasks
  rw [hasks]
  exact h.source

end Provider.Gives

/-- What a call fails with whose token source fails with `f`. On a secure channel that is for the
transport to report. -/
def Transport.shown (t : Transport) : Security → Failure → Failure
  | .plaintext, f => f
  | .tls _, f => t.reported f

namespace Channel

/-- A channel with the given provider in effect. -/
def serving (security : Security) (p : Provider) (interceptors : List Interceptor) (number : ℕ) :
    Channel :=
  match security with
  | .tls roots => ⟨number, .tls roots, some p, interceptors⟩
  | .plaintext => ⟨number, .plaintext, none, .authorizing (some p) :: interceptors⟩

/-- Effects and outcome of a call on the numbered channel that asks the named source once. If that
leads to a header value the call is made, with one entry from the client's own provider that has
this value, and it ends as the transport says. Otherwise it is not made, and ends for want of a
token. -/
structure Decides (t : Transport) (security : Security) (name : SourceName) (number : ℕ)
    (call : Call) (answer : Except Failure String) (es : List Effect)
    (outcome : Except Failure Reply) : Prop where
  asked : es.countP (Effect.isAsk name) = 1
  granted : ∀ value, answer = .ok value → ∃ d plugin,
    es.filter (·.isCall) = [.call number call.kind call.request d plugin] ∧
      (d.metadata.getD [] ++ plugin.getD []).filter Entry.isOwn =
        [⟨"authorization", value, some .own⟩] ∧
      outcome = t.exchange call.kind call.request d plugin
  refused : ∀ f, answer = .error f →
    es.filter (·.isCall) = [] ∧ outcome = .error (t.shown security f)

/-- Whether all that is asked during a call is asked even if it fails for want of a token: either
the provider comes behind the interceptors, or they ask nothing. -/
def Steady (security : Security) (interceptors : List Interceptor) : Prop :=
  security ≠ .plaintext ∨ ∀ i ∈ interceptors, i.source? = none

variable {t : Transport} {security : Security} {interceptors : List Interceptor}
  {name : SourceName} {call : Call} {number : ℕ}

section Transmitting

variable {s : Surroundings} {w : World} {p : Provider}

end Transmitting

end Channel

end SharedChannel
