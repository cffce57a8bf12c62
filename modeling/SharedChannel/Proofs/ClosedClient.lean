import SharedChannel.Proofs.Closing

/-!
# Calls on a closed client

Once a client is closed every call on it fails and none gets to the channel. A secure channel
refuses at once, in the way of the transport. A plaintext channel has the provider in effect before
it, so the source of the provider is still asked, and if it fails the call fails so.
`Observation.Refused` lists these refusals, and `closed_client_refuses` says that there are no
others.
-/

namespace SharedChannel

/-- An observed call that comes to a closed channel of the transport, where the given source is
asked on the way. -/
inductive Observation.Refused {ρ : Type} (transport : Transport) (source : Option TokenSource) :
    Observation ρ → Prop where
  /-- Nothing happens at all. -/
  | unasked {w : World} (hsource : source = none) :
      Refused transport source ⟨.error transport.closed, w, w⟩
  /-- There is a header value, but no channel to take it. -/
  | granted {w : World} {t : TokenSource} {value : String} (hsource : source = some t)
      (hvalue : t.header (w.asks t.name) = .ok value) :
      Refused transport source ⟨.error transport.closed, w, w.did [.ask t.name]⟩
  | failed {w : World} {t : TokenSource} {f : Failure} (hsource : source = some t)
      (hvalue : t.header (w.asks t.name) = .error f) :
      Refused transport source ⟨.error f, w, w.did [.ask t.name]⟩

/-- The turn is refused if it is a call that there is a channel for. -/
def Turn.Refused (transport : Transport) (source : Option TokenSource) (t : Turn)
    (o : Observation (Except Failure (Option Reply))) : Prop :=
  ∀ accessor call, t = .use (.call accessor call) → Client.refusal? accessor = none →
    o.Refused transport source

namespace Dial

/-- The source that a call asks before it comes to the channel itself. On a plaintext channel it is
that of the provider in effect. -/
def frontSource? (security : Security) (p : Option Provider) : Option TokenSource :=
  (front? security p).bind (·.source)

section Closed

variable {security : Security} {p : Option Provider} {settings : DialSettings} {number : ℕ}
  {s : Surroundings} {w : World}

lemma frontSource?_eq_none_iff : frontSource? security p = none ↔
    security ≠ .plaintext ∨ ∀ q, p = some q → q.source = none := by
  cases security with
  | plaintext =>
    have hfront : frontSource? .plaintext p = p.bind (·.source) := rfl
    rw [hfront, Option.bind_eq_none_iff]
    simp
  | tls roots => simp [frontSource?, front?]

/-- A call on a closed channel without interceptors ends behind the provider in front. -/
lemma perform_invoke_of_closed (hnone : settings.interceptors = [])
    (hclosed : w.isClosed number = true) (call : Call) :
    ((channelOf security settings number).invoke call).perform s w =
      (match Provider.entriesOf (front? security settings.callCredentials) w with
        | .ok _ => .error s.transport.closed
        | .error f => .error f,
        w.did (Provider.asksOf (front? security settings.callCredentials))) := by
  have hnumber : (channelOf security settings number).number = number := channelOf_number ..
  rw [Channel.invoke, channelOf_interceptors, interceptors_eq_append, hnone, perform_through_front]
  cases Provider.entriesOf (front? security settings.callCredentials) w with
  | error f => rfl
  | ok first =>
    have hstill : (w.did (Provider.asksOf (front? security settings.callCredentials))).isClosed
        (channelOf security settings number).number = true := by
      rw [hnumber]
      exact hclosed
    exact Channel.perform_transmit_of_closed hstill ..

/-- So it is refused, with the source in front as the one that is asked. -/
lemma refused_invoke {ρ : Type} (g : Reply → ρ) (hnone : settings.interceptors = [])
    (hclosed : w.isClosed number = true) (call : Call) :
    Observation.Refused s.transport (frontSource? security settings.callCredentials)
      (⟨(((channelOf security settings number).invoke call).perform s w).1.map g, w,
        (((channelOf security settings number).invoke call).perform s w).2⟩ : Observation ρ) := by
  rw [perform_invoke_of_closed hnone hclosed]
  unfold frontSource?
  cases front? security settings.callCredentials with
  | none =>
    have hnothing : w.did (Provider.asksOf none) = w := w.did_nil
    rw [hnothing]
    exact .unasked rfl
  | some q =>
    have hasks : Provider.asksOf (some q) = q.asking := List.flatMap_singleton ..
    have hentries : Provider.entriesOf (some q) w = q.granted w := rfl
    rw [hasks, hentries, Provider.asking, Provider.granted]
    cases hsource : q.source with
    | none =>
      rw [Option.toList_none, List.map_nil, World.did_nil]
      exact .unasked hsource
    | some t =>
      dsimp only
      cases hvalue : t.header (w.asks t.name) with
      | error f => exact .failed hsource hvalue
      | ok value => exact .granted hsource hvalue

end Closed

end Dial

namespace Client

section Refusing

variable {n : Channel} {c c' : Client} {s : Surroundings} {w w' : World} {t : Turn}
  {outcome : Except Failure (Option Reply)}

/-- A turn that closes an open client, and does not fail, leaves it closed. -/
lemma holds_shut_of_take (hc : c.Intact) (hopen : c.closed = false) (ht : t.closes = true)
    (h : (c.take t).perform s w = (.ok (c', outcome), w')) : Holds c.channel .shut c' w' := by
  obtain ⟨log, hclose⟩ := perform_close_of_open (s := s) (w := w) hc hopen
  rw [perform_take_of_closes ht, hclose] at h
  cases hattempt : s.closeFailures[w.closeAttempts]?.join with
  | some f =>
    rw [hattempt] at h
    cases h
  | none =>
    rw [hattempt] at h
    cases h
    refine ⟨rfl, ⟨hc.stubs, hc.lost⟩, rfl, ?_⟩
    simp [World.isClosed, ChannelState.isShut]

/-- No turn opens a channel again. -/
lemma shut_of_steps {o : Observation (Except Failure (Option Reply))} {y : ChannelState}
    (h : t.Steps n s .shut o y) : y = .shut := by
  cases h with
  | again ht => rfl
  | refused haccessor hshut hcall hclose => rfl
  | unknown haccessor => rfl

lemma Holds.shut_take (h : Holds n .shut c w) (t : Turn) :
    Holds n .shut (afterUse c ((c.take t).perform s w).1) ((c.take t).perform s w).2 := by
  obtain ⟨y, hstep, hnext⟩ := exists_step (s := s) h t
  rw [shut_of_steps hstep] at hnext
  exact hnext

/-- A call on a closed client is refused, with the source in front of its channel. -/
lemma Holds.refused_take {security : Security} {settings : DialSettings} {number : ℕ}
    (h : Holds n .shut c w) (hn : n = Dial.channelOf security settings number)
    (hnone : settings.interceptors = []) {accessor : Option String}
    (haccessor : refusal? accessor = none) (call : Call) :
    (observe take s c w (.use (.call accessor call))).Refused s.transport
      (Dial.frontSource? security settings.callCredentials) := by
  have htake := perform_take_call (s := s) (w := w) h.intact accessor call
  have hclosed : w.isClosed number = true := by
    have hshut := h.isClosed
    rw [hn, Dial.channelOf_number] at hshut
    exact hshut
  rw [haccessor, h.channel, hn] at htake
  unfold observe
  rw [htake]
  dsimp only
  rw [map_snd_reply]
  exact Dial.refused_invoke _ hnone hclosed call

/-- So it goes for all calls that come after the closing, whatever else is done in between. -/
lemma Holds.forall_refused {security : Security} {settings : DialSettings} {number : ℕ}
    (h : Holds n .shut c w) (hn : n = Dial.channelOf security settings number)
    (hnone : settings.interceptors = []) (turns : List Turn) :
    List.Forall₂ (Turn.Refused s.transport (Dial.frontSource? security settings.callCredentials))
      turns (session take s c w turns) := by
  induction turns generalizing c w with
  | nil => exact .nil
  | cons t rest ih =>
    have hnext := h.shut_take (s := s) t
    refine .cons ?_ (ih hnext)
    rintro accessor call rfl haccessor
    exact h.refused_take hn hnone haccessor call

end Refusing

section Built

variable {e : Endpoint} {options : List ClientOption} {timeout : Value} {s : Surroundings}
  {w u : World} {c : Client}

/-- A client without interceptors of the caller is closed. From then on each call on it, on the
channel or through a stub, is refused. If no source is in front of the channel, which is so on a
secure channel and where the provider has none, nothing is asked. -/
theorem closed_client_refuses (hconnect : (connect e options timeout).perform s w = (.ok c, u))
    (hnone : ClientOption.interceptors options = []) {t : Turn} (ht : t.closes = true)
    {r : Surroundings} {v v' : World} {c' : Client} {outcome : Except Failure (Option Reply)}
    (hclose : (c.take t).perform r v = (.ok (c', outcome), v')) :
    let p := DialOption.lastProvider (allDialOptions e options)
    let source := Dial.frontSource? c.channel.security p
    DialOption.lastSecurity (allDialOptions e options) = some c.channel.security ∧
    (source = none ↔ c.channel.security ≠ .plaintext ∨ ∀ q, p = some q → q.source = none) ∧
    ∀ r' (turns : List Turn),
      List.Forall₂ (Turn.Refused r'.transport source) turns (session take r' c' v' turns) := by
  intro p source
  obtain ⟨security, hsecurity, hchannel, hintact, -⟩ := connect_eq_ok hconnect
  have hprovider := DialOption.ofOptions_callCredentials (allDialOptions e options)
  have hinterceptors := DialOption.ofOptions_interceptors (allDialOptions e options)
  have hempty : (DialSettings.ofOptions (allDialOptions e options)).interceptors = [] := by
    rw [hinterceptors]
    exact hnone
  have hsecure : c.channel.security = security := by
    rw [hchannel, Dial.channelOf_security]
  have hshut := holds_shut_of_take hintact (closed_of_connect hconnect) ht hclose
  refine ⟨?_, Dial.frontSource?_eq_none_iff, ?_⟩
  · rw [hsecure]
    exact hsecurity
  · intro r' turns
    have hrefused := hshut.forall_refused (s := r') hchannel hempty turns
    rw [hprovider, ← hsecure] at hrefused
    exact hrefused

end Built

namespace Shut

/-! Clients on both kinds of channel, which were closed. Their source fails first, and then it has a
token. -/

def source : TokenSource :=
  .scripted (.given 0) (.error (.raised .runtime "x")) [.ok { accessToken := .text "B" }]

def endpoint (tls : Bool) : Endpoint := ⟨.text "localhost", "8080", .bool tls⟩

def options : List ClientOption := [.auth (some (.custom "i" (.int 0) (.ok (some source))))]

def channel : Bool → Channel
  | true => ⟨1, .tls .none, some ⟨.own, .bool true, some source⟩, []⟩
  | false => ⟨1, .plaintext, none, [.authorizing (some ⟨.own, .bool false, some source⟩)]⟩

def client (tls : Bool) : Client := { channel := channel tls, stubs := stubsOn (channel tls) }

def built (tls : Bool) : World := ((connect (endpoint tls) options .none).perform {} {}).2

def spent (tls : Bool) : Client := { client tls with closed := true }

def after (tls : Bool) : World := (((client tls).take (.use .close)).perform {} (built tls)).2

def call : Call := { kind := .unaryUnary, method := "/p.S/M", request := .text "r" }

/-- A call through a stub, the end of a block, and the same call on the channel. -/
def turns : List Turn :=
  [.use (.call (some "admin_service") call), .leave (.ok ()), .use (.call none call)]

def seen (tls : Bool) : List (Observation (Except Failure (Option Reply))) :=
  session take {} (spent tls) (after tls) turns

lemma connect_options (tls : Bool) :
    (connect (endpoint tls) options .none).perform {} {} = (.ok (client tls), built tls) := by
  cases tls
  · exact Prod.ext (by rfl) rfl
  · exact Prod.ext (by rfl) rfl

lemma take_close (tls : Bool) : ((client tls).take (.use .close)).perform {} (built tls) =
    (.ok (spent tls, .ok none), after tls) := by
  cases tls
  · exact Prod.ext (by rfl) rfl
  · exact Prod.ext (by rfl) rfl

set_option maxRecDepth 2048 in
/-- What is seen of the calls on the plaintext client. -/
lemma seen_plaintext : ((seen false).map fun o => (o.outcome, o.effects)) =
    [(.error (.raised .runtime "x"), [.ask (.given 0)]), (.ok (.ok none), []),
      (.error .closedChannel, [.ask (.given 0)])] := by
  rfl

end Shut

open Shut in
/-- The secure client asks nothing. The plaintext one asks for each call, which fails as its source
does, and the next one as its channel does. -/
theorem closed_clients_refuse :
    (∀ tls, (connect (endpoint tls) options .none).perform {} {} = (.ok (client tls), built tls)) ∧
      ClientOption.interceptors options = [] ∧
      (∀ tls, ((client tls).take (.use .close)).perform {} (built tls) =
        (.ok (spent tls, .ok none), after tls)) ∧
      List.Forall₂ (Turn.Refused .plain none) turns (seen true) ∧
      List.Forall₂ (Turn.Refused .plain (some source)) turns (seen false) ∧
      ((seen true).map fun o => (o.outcome, o.effects)) =
        [(.error .closedChannel, []), (.ok (.ok none), []), (.error .closedChannel, [])] ∧
      ((seen false).map fun o => (o.outcome, o.effects)) =
        [(.error (.raised .runtime "x"), [.ask (.given 0)]), (.ok (.ok none), []),
          (.error .closedChannel, [.ask (.given 0)])] := by
  have hnone : ClientOption.interceptors options = [] := rfl
  obtain ⟨-, -, secure⟩ := closed_client_refuses (connect_options true) hnone rfl (take_close true)
  obtain ⟨-, -, plaintext⟩ :=
    closed_client_refuses (connect_options false) hnone rfl (take_close false)
  exact ⟨connect_options, hnone, take_close, secure {} turns, plaintext {} turns, by rfl,
    seen_plaintext⟩

open Shut in
/-- A call through a stub of a closed client asks a token source, and its failure is raised. -/
theorem closed_plaintext_client_asks :
    (connect (endpoint false) options .none).perform {} {} = (.ok (client false), built false) ∧
      ClientOption.interceptors options = [] ∧
      ((client false).take (.use .close)).perform {} (built false) =
        (.ok (spent false, .ok none), after false) ∧
      refusal? (some "admin_service") = none ∧
      turns.head? = some (.use (.call (some "admin_service") call)) ∧
      ∃ o, (seen false).head? = some o ∧ o.effects = [.ask (.given 0)] ∧
        o.outcome ≠ .error .closedChannel := by
  have hseen : ((seen false).head?.map fun o => (o.outcome, o.effects)) =
      some (.error (.raised .runtime "x"), [.ask (.given 0)]) := by
    rw [← List.head?_map, seen_plaintext, List.head?_cons]
  obtain ⟨o, ho, hpair⟩ := Option.map_eq_some_iff.mp hseen
  have hraised : o.outcome = .error (.raised .runtime "x") := congrArg Prod.fst hpair
  have hasked : o.effects = [.ask (.given 0)] := congrArg Prod.snd hpair
  refine ⟨connect_options false, rfl, take_close false, by rfl, rfl, o, ho, hasked, ?_⟩
  rw [hraised]
  intro h
  cases h

end Client

end SharedChannel
