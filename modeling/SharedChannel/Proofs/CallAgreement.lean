import SharedChannel.Proofs.Session

/-!
# Calls on both kinds of channel

A provider serves a secure channel as its credential plugin, behind all interceptors, and a
plaintext channel as the first interceptor. Where the interceptors of the caller pass every call on,
both ways come to the same: the token source is asked as often, and what reaches the channel is the
same up to the order of the metadata. A call without a token fails on both. It is the failure of the
source that callers see on a plaintext channel; on a secure one it is what the transport makes of
that, and where a failure has no text it is not even reported to the transport. So it is for whole
sessions of two clients, by `Channel.sameRun_invoke` for each call.
-/

namespace SharedChannel

section Passing

namespace Interceptor

/-- The metadata that an interceptor adds to a call of the given kind. -/
def added (kind : CallKind) : Interceptor → Metadata
  | custom _ kinds add _ => if kinds.contains kind then add.map Entry.ofHeader else []
  | _ => []

variable {i : Interceptor} {kind : CallKind} {s : Surroundings} {w : World}

end Interceptor

/-- `d'` is `d` with further metadata and otherwise the same. -/
structure CallDetails.Extends (d' d : CallDetails) (more : Metadata) : Prop where
  method : d'.method = d.method
  timeout : d'.timeout = d.timeout
  extras : d'.extras = d.extras
  metadata : d'.metadata.getD [] = d.metadata.getD [] ++ more

namespace CallDetails

lemma extend_extends {d : CallDetails} (hd : d.extras.isSome = true) (more : Metadata) :
    (d.extend more).Extends d more := by
  obtain ⟨x, hx⟩ := Option.isSome_iff_exists.mp hd
  rw [extend]
  split
  · next hmore =>
    rw [List.isEmpty_iff] at hmore
    exact ⟨rfl, rfl, rfl, by simp [hmore]⟩
  · exact ⟨rfl, rfl, by simp [hx], rfl⟩

lemma Extends.trans {d d' d'' : CallDetails} {l m : Metadata} (h' : d''.Extends d' m)
    (h : d'.Extends d l) : d''.Extends d (l ++ m) := by
  refine ⟨h'.method.trans h.method, h'.timeout.trans h.timeout, h'.extras.trans h.extras, ?_⟩
  rw [h'.metadata, h.metadata, List.append_assoc]

end CallDetails

variable {kind : CallKind} {interceptors : List Interceptor}

end Passing

namespace Provider

def granted (p : Provider) (w : World) : Except Failure Metadata :=
  match p.source with
  | none => .ok []
  | some t =>
    (t.header (w.asks t.name)).map fun value => [⟨authorizationKey, value, some p.name⟩]

def asking (p : Provider) : List Effect := p.source.toList.map fun t => .ask t.name

lemma perform_entries (p : Provider) (s : Surroundings) (w : World) :
    p.entries.perform s w = (p.granted w, { w with trace := w.trace ++ p.asking }) := by
  rw [entries, granted, asking]
  cases p.source with
  | none => simp
  | some t =>
    dsimp only
    rw [Action.perform_bind, TokenSource.ask, Action.perform_bind_of_ok (Action.perform_get ..),
      Action.perform_bind_of_ok (Action.perform_emit ..), Action.perform_ofExcept,
      TokenSource.header]
    cases t.answer (w.asks t.name) with
    | error f => rfl
    | ok token =>
      dsimp only
      rw [Action.perform_bind, Action.perform_ofExcept]
      change _ = (token.authorization.map _, _)
      cases token.authorization <;> rfl

/-- The world with the plugin's record of a failure in its log. -/
def recorded (method : Option String) (f : Failure) (w : World) : World :=
  { w with log := w.log ++ [⟨logger, Logging.Level.debug.number,
      "Failed to obtain request metadata for " ++ method.getD "None" ++ ": " ++ f.wording⟩] }

section Plugin

variable {α : Type} {p : Provider} {method : Option String} {s : Surroundings} {w v : World}
  {m : Metadata} {f : Failure}

lemma perform_plugin_of_granted (h : p.entries.perform s w = (.ok m, v))
    (callback : PluginAnswer → Action α) :
    (p.plugin method callback).perform s w = (callback (.granted m)).perform s v := by
  rw [plugin, Action.perform_bind_of_ok (Action.perform_attempt ..), h]

lemma perform_plugin_of_reportable (h : p.entries.perform s w = (.error f, v))
    (hf : f.isReportable = true) (callback : PluginAnswer → Action α) :
    (p.plugin method callback).perform s w =
      (callback (.refused f)).perform s (recorded method f v) := by
  rw [plugin, Action.perform_bind_of_ok (Action.perform_attempt ..), h]
  dsimp only
  rw [if_pos (Failure.isOrdinary_of_isReportable hf),
    Failure.message_of_not_mute (Failure.isMute_of_isReportable hf),
    Action.perform_bind_of_ok (Action.perform_ofExcept ..),
    Action.perform_bind_of_ok (Action.perform_record ..)]
  rfl

/-- A failure that the plugin does not report, or what keeps it from reporting it. -/
lemma perform_plugin_of_not_reportable (h : p.entries.perform s w = (.error f, v))
    (hf : f.isReportable = false) (callback : PluginAnswer → Action α) :
    (p.plugin method callback).perform s w = (.error f.escaping, v) := by
  rw [plugin, Action.perform_bind_of_ok (Action.perform_attempt ..), h, Failure.escaping]
  dsimp only
  cases hordinary : f.isOrdinary with
  | false => rfl
  | true =>
    rw [Failure.isReportable, hordinary] at hf
    rw [Failure.message_of_mute (by simpa using hf)]
    simp [Action.perform_bind]

end Plugin

end Provider

/-- What a call on a secure channel fails with whose token source fails with `f`. -/
def Transport.reported (t : Transport) (f : Failure) : Failure :=
  if f.isReportable then t.refused f else t.unanswered f.escaping

/-- What the plugin of a secure channel is seen to report of a failure. -/
def Provider.notice (f : Failure) : List Effect :=
  if f.isReportable then [.pluginFailure f] else []

def Effect.isCall : Effect → Bool
  | call .. => true
  | _ => false

/-- The outcomes on a secure and on a plaintext channel are the same, unless the token source
failed. Then a plaintext channel gives its failure, and a secure one what the transport reports. -/
def Transport.Matches {α : Type} (t : Transport) (failed : Option Failure)
    (secure plain : Except Failure α) : Prop :=
  match failed with
  | none => secure = plain
  | some f => secure = .error (t.reported f) ∧ plain = .error f

lemma Transport.Matches.map {α β : Type} {t : Transport} {failed : Option Failure}
    {secure plain : Except Failure α} (h : t.Matches failed secure plain) (g : α → β) :
    t.Matches failed (secure.map g) (plain.map g) := by
  cases failed with
  | none => exact congrArg (Except.map g) h
  | some f =>
    obtain ⟨rfl, rfl⟩ := h
    exact ⟨rfl, rfl⟩

namespace Provider

variable {p q : Provider} {w v : World}

end Provider

namespace Channel

variable {s : Surroundings} {w : World} {interceptors : List Interceptor} {number : Nat}

/-- The credential plugin of a call asks, and a failure is reported if it can be. -/
lemma perform_grantedEntries (p : Provider) (d : CallDetails) :
    ∃ log, (grantedEntries p d).perform s w =
      match p.granted w with
      | .ok m => (.ok m, { w with trace := w.trace ++ p.asking, log })
      | .error f => (.error (s.transport.reported f), { w with
          trace := w.trace ++ (p.asking ++ Provider.notice f)
          log }) := by
  have hentries := p.perform_entries s w
  rw [grantedEntries, Action.perform_bind_of_ok (Action.perform_read ..),
    Action.perform_bind_of_ok (Action.perform_attempt ..)]
  cases hg : p.granted w with
  | ok m =>
    rw [hg] at hentries
    rw [Provider.perform_plugin_of_granted hentries]
    exact ⟨w.log, rfl⟩
  | error f =>
    rw [hg] at hentries
    dsimp only
    rw [Transport.reported, Provider.notice]
    cases hf : f.isReportable with
    | true =>
      rw [Provider.perform_plugin_of_reportable hentries hf]
      dsimp only [Action.perform_pure]
      rw [Action.perform_bind_of_ok (Action.perform_emit ..), ← List.append_assoc]
      exact ⟨_, rfl⟩
    | false =>
      rw [Provider.perform_plugin_of_not_reportable hentries hf]
      exact ⟨w.log, by simp⟩

lemma perform_transmit {c : Channel} (hopen : w.isClosed c.number = false) (kind : CallKind)
    (request : Value) (d : CallDetails) :
    (c.transmit kind request d).perform s w =
      match (c.pluginMetadata d).perform s w with
      | (.ok plugin, v) => (s.transport.exchange kind request d plugin,
          { v with trace := v.trace ++ [.call c.number kind request d plugin] })
      | (.error f, v) => (.error f, v) := by
  rw [transmit, Action.perform_bind_of_ok (Action.perform_read ..),
    Action.perform_bind_of_ok (Action.perform_get ..)]
  dsimp only
  rw [if_neg (by simp [hopen]), Action.perform_bind]
  rcases (c.pluginMetadata d).perform s w with ⟨f | plugin, v⟩
  · rfl
  · dsimp only
    rw [Action.perform_bind_of_ok (Action.perform_emit ..), Action.perform_ofExcept]

/-- On a secure channel the plugin is asked before the call. -/
lemma perform_transmit_secure (roots : Value) (p : Provider) (interceptors : List Interceptor)
    (hopen : w.isClosed number = false) (kind : CallKind) (request : Value) (d : CallDetails) :
    ∃ log, ((⟨number, .tls roots, some p, interceptors⟩ : Channel).transmit kind request
        d).perform s w =
      match p.granted w with
      | .ok m => (s.transport.exchange kind request d (some m), { w with
          trace := w.trace ++ (p.asking ++ [.call number kind request d (some m)])
          log })
      | .error f => (.error (s.transport.reported f), { w with
          trace := w.trace ++ (p.asking ++ Provider.notice f)
          log }) := by
  obtain ⟨log, hplugin⟩ := perform_grantedEntries (s := s) (w := w) p d
  refine ⟨log, ?_⟩
  rw [perform_transmit hopen, pluginMetadata, Action.perform_map, hplugin]
  cases p.granted w with
  | ok m => simp [Except.map]
  | error f => simp [Except.map]

end Channel

namespace Client

section Built

variable {e : Endpoint} {options : List ClientOption} {timeout : Value} {s : Surroundings}
  {w v : World} {c : Client}

/-- Unless the caller sets a provider, that of the client is in effect. -/
lemma lastProvider_of_none (hnone : ∀ o ∈ ClientOption.dialOptions options, o.provider? = none) :
    DialOption.lastProvider (allDialOptions e options) = some (ownProvider e options) := by
  have hgiven : (ClientOption.dialOptions options).filterMap DialOption.provider? = [] :=
    List.filterMap_eq_nil_iff.mpr hnone
  rw [allDialOptions, DialOption.lastProvider_withMandatory, hgiven]
  rfl

end Built

section Calling

variable {s : Surroundings} {w : World} {c : Client} {accessor : Option String} {call : Call}

lemma perform_use_call (hc : c.Intact) (accessor : Option String) :
    (c.use (.call accessor call)).perform s w =
      match refusal? accessor with
      | none => (((c.channel.invoke call).perform s w).1.map fun r => (c, some r),
          ((c.channel.invoke call).perform s w).2)
      | some f => (.error f, w) := by
  rw [use, hc.channelFor]
  cases refusal? accessor with
  | some f => rw [Action.perform_bind_of_error (Action.perform_ofExcept ..)]
  | none =>
    rw [Action.perform_bind_of_ok (Action.perform_ofExcept ..), Action.perform_bind]
    rcases (c.channel.invoke call).perform s w with ⟨f | r, v⟩
    · rfl
    · rfl

end Calling

namespace Paired

/-! Two clients of one initializer and one interceptor, for a TLS and for a plaintext endpoint. The
remote side tells how many entries of metadata it was sent. -/

def secure : Endpoint := ⟨.text "h", "443", .bool true⟩

def plaintext : Endpoint := ⟨.text "h", "80", .bool false⟩

def interceptors : List Interceptor := [.custom "trace" [.unaryUnary] [("trace", "on")] none]

def options (t : TokenSource) : List ClientOption := [
  .auth (some (.custom "login" (.int 0) (.ok (some t)))), .dial [.interceptors interceptors]]

def counting : Transport := { Transport.plain with
  exchange := fun kind _ d plugin =>
    let text := toString (d.metadata.getD [] ++ plugin.getD []).length
    .ok (if kind.answersStream then .stream [text] else .single text) }

def counted : Surroundings := { transport := counting }

def world (e : Endpoint) (t : TokenSource) : World :=
  ((connect e (options t) .none).perform counted {}).2

def rotating : TokenSource := .rotating (.given 0) "t"

def call : Call := {
  kind := .unaryUnary, method := "/p.S/M", request := .text "r", metadata := some [("k", "v")] }

/-- A call on the channel, one through a stub, and one through a stub that does not exist. -/
def calls : List (Option String × Call) := [
  (none, call),
  (some "admin_service", { kind := .streamUnary, method := "/p.S/N", request := .list [] }),
  (some "unknown", call)]

def mute : Failure := .mute .runtime (.raised .value "no text")

def failing : TokenSource := .scripted (.given 0) (.error mute) []

end Paired

end Client

end SharedChannel
