import SharedChannel.Proofs.InterceptorChain
import SharedChannel.Proofs.CallEffects

/-!
# Closing a client

A client is used for calls, is closed, and ends blocks that used it, in any order, and each attempt
to close its channel may fail. `Turn.Steps` lists what a turn can come to, as the steps of a machine
with two stages: the channel is open until one attempt succeeds, and from then on it is left alone.
-/

namespace SharedChannel

section Calling

variable {s : Surroundings} {w : World}

namespace Channel

lemma pluginMetadata_closed (c : Channel) (d : CallDetails) :
    ((c.pluginMetadata d).perform s w).2.closed = w.closed := by
  unfold pluginMetadata
  split
  · rfl
  · rfl
  · next p _ _ =>
    obtain ⟨log, hplugin⟩ := perform_grantedEntries (s := s) (w := w) p d
    rw [Action.perform_map, hplugin]
    cases p.granted w <;> rfl

lemma perform_transmit_of_closed {c : Channel} (hclosed : w.isClosed c.number = true)
    (kind : CallKind) (request : Value) (d : CallDetails) :
    (c.transmit kind request d).perform s w = (.error s.transport.closed, w) := by
  unfold transmit
  rw [Action.perform_bind_of_ok (Action.perform_read ..),
    Action.perform_bind_of_ok (Action.perform_get ..)]
  dsimp only
  rw [if_pos hclosed]
  exact Action.perform_bind_of_error (Action.perform_throw ..)

lemma transmit_closed (c : Channel) (kind : CallKind) (request : Value) (d : CallDetails) :
    ((c.transmit kind request d).perform s w).2.closed = w.closed := by
  cases hopen : w.isClosed c.number with
  | true => rw [perform_transmit_of_closed hopen]
  | false =>
    have hplugin := c.pluginMetadata_closed (s := s) (w := w) d
    rw [perform_transmit hopen]
    rcases hrun : (c.pluginMetadata d).perform s w with ⟨f | plugin, v⟩
    · rw [hrun] at hplugin
      exact hplugin
    · rw [hrun] at hplugin
      exact hplugin

/-- A call closes nothing. -/
lemma invoke_closed (c : Channel) (call : Call) :
    ((c.invoke call).perform s w).2.closed = w.closed := by
  unfold invoke
  rw [perform_through_parts]
  dsimp only
  split
  · rfl
  · rw [transmit_closed]
    rfl

/-- On a closed channel a call may get through the interceptors, but it ends there. -/
lemma perform_invoke_of_closed {c : Channel} (hclosed : w.isClosed c.number = true)
    (call : Call) :
    ∃ f es, (c.invoke call).perform s w = (.error f, w.did es) ∧
      ∀ e ∈ es, e.isCall = false := by
  let xs := parts call.kind c.interceptors call.details w
  have hcall : ∀ e ∈ xs.flatMap (·.deeds call.kind), e.isCall = false := by
    intro e he
    obtain ⟨x, -, he⟩ := List.mem_flatMap.mp he
    exact x.interceptor.deeds_isCall call.kind x.seen e he
  unfold invoke
  rw [perform_through_parts]
  dsimp only
  split
  · next f _ => exact ⟨f, _, rfl, hcall⟩
  · have hstill : (w.did (xs.flatMap (·.deeds call.kind))).isClosed c.number = true := hclosed
    exact ⟨s.transport.closed, _, perform_transmit_of_closed hstill .., hcall⟩

lemma Does.isClose {c : Channel} {call : Call} {e : Effect} (h : c.Does call e) :
    e.isClose = false := by
  cases h <;> rfl

/-- A call adds to the history, and no closing is among it. -/
lemma exists_invoke_trace (c : Channel) (call : Call) :
    ∃ es, ((c.invoke call).perform s w).2.trace = w.trace ++ es ∧ ∀ e ∈ es, e.isClose = false := by
  obtain ⟨⟨es, htrace, hdoes⟩, -⟩ := c.invoke_does (s := s) call w
  exact ⟨es, htrace, fun e he => (hdoes e he).isClose⟩

end Channel

end Calling

/-- What may be done with a client: a use, or the end of a block that used it. -/
inductive Turn where
  | use (u : Use)
  | leave (block : Except Failure Unit)

namespace Turn

/-- The turn closes the client. -/
def closes : Turn → Bool
  | use .close => true
  | use (.call ..) => false
  | leave _ => true

/-- What a turn that closes the client comes to if nothing is the matter: the end of a block is as
the block was. -/
def result : Turn → Except Failure (Option Reply)
  | use _ => .ok none
  | leave block => block.map fun _ => none

end Turn

namespace Client

/-- The client after a turn, and what the turn comes to unless the client fails. -/
def take : Turn → Client → Action (Client × Except Failure (Option Reply))
  | .use u, c => do
    let (c', reply) ← c.use u
    return (c', .ok reply)
  | .leave block, c => do
    let (c', outcome) ← c.leave block
    return (c', outcome.map fun _ => none)

end Client

/-- Whether the channel of a client is still to be closed. -/
inductive ChannelState where
  | live
  | shut

def ChannelState.isShut : ChannelState → Bool
  | live => false
  | shut => true

/-- A turn with a client on the channel. The channel is live until an attempt to close it succeeds,
and shut from then on. -/
inductive Turn.Steps (c : Channel) (s : Surroundings) :
    ChannelState → Turn → Observation (Except Failure (Option Reply)) → ChannelState → Prop where
  /-- Whatever the attempt to close raises is raised as it is. -/
  | fails {t : Turn} {w : World} {f : Failure} (ht : t.closes = true)
      (hattempt : s.closeFailures[w.closeAttempts]?.join = some f) :
      Steps c s .live t ⟨.error f, w, w.did [.close c.number]⟩ .live
  | succeeds {t : Turn} {w : World} {log : List Logging.Record} (ht : t.closes = true)
      (hattempt : s.closeFailures[w.closeAttempts]?.join = none) :
      Steps c s .live t ⟨.ok t.result, w, { w.did [.close c.number] with
        closed := w.closed ++ [c.number]
        log }⟩ .shut
  | again {t : Turn} {w : World} (ht : t.closes = true) :
      Steps c s .shut t ⟨.ok t.result, w, w⟩ .shut
  /-- A call as on the open channel itself. -/
  | calls {accessor : Option String} {call : Call} {w : World}
      {o : Observation (Except Failure (Option Reply))}
      (haccessor : Client.refusal? accessor = none) (hopen : w.isClosed c.number = false)
      (ho : o = ⟨((c.invoke call).perform s w).1.map fun r => .ok (some r), w,
        ((c.invoke call).perform s w).2⟩)
      (hclosed : o.after.closed = w.closed) (hclose : ∀ e ∈ o.effects, e.isClose = false) :
      Steps c s .live (.use (.call accessor call)) o .live
  | refused {accessor : Option String} {call : Call} {w : World} {f : Failure} {es : List Effect}
      (haccessor : Client.refusal? accessor = none) (hshut : w.isClosed c.number = true)
      (hcall : ∀ e ∈ es, e.isCall = false) (hclose : ∀ e ∈ es, e.isClose = false) :
      Steps c s .shut (.use (.call accessor call)) ⟨.error f, w, w.did es⟩ .shut
  /-- There is no stub under the name. -/
  | unknown {accessor : Option String} {call : Call} {w : World} {f : Failure} {x : ChannelState}
      (haccessor : Client.refusal? accessor = some f) :
      Steps c s x (.use (.call accessor call)) ⟨.error f, w, w⟩ x

/-- Turns one after the other, each in the world that the one before it left. -/
inductive Turn.Runs (c : Channel) (s : Surroundings) :
    ChannelState → World → List Turn →
      List (Observation (Except Failure (Option Reply))) → Prop where
  | nil {x : ChannelState} {w : World} : Runs c s x w [] []
  | cons {x y : ChannelState} {w : World} {t : Turn} {rest : List Turn}
      {o : Observation (Except Failure (Option Reply))}
      {os : List (Observation (Except Failure (Option Reply)))}
      (hstep : t.Steps c s x o y) (hbefore : o.before = w) (hrest : Runs c s y o.after rest os) :
      Runs c s x w (t :: rest) (o :: os)

namespace Client

/-- The client is on the channel, and it knows whether it has closed it. -/
structure Holds (n : Channel) (x : ChannelState) (c : Client) (w : World) : Prop where
  channel : c.channel = n
  intact : c.Intact
  closed : c.closed = x.isShut
  isClosed : w.isClosed n.number = x.isShut

section Taking

variable {n : Channel} {c : Client} {s : Surroundings} {w : World} {t : Turn}

lemma Intact.has_eq_true (hc : c.Intact) (part : ClientPart) : c.has part = true := by
  rw [has, hc.lost]
  rfl

lemma perform_close_of_open (hc : c.Intact) (hopen : c.closed = false) :
    ∃ log, c.close.perform s w =
      match s.closeFailures[w.closeAttempts]?.join with
      | some f => (.error f, w.did [.close c.channel.number])
      | none => (.ok { c with closed := true }, { w.did [.close c.channel.number] with
          closed := w.closed ++ [c.channel.number]
          log }) := by
  have hclose := Action.perform_closeChannel s w c.channel.number
  unfold close
  rw [hc.has_eq_true, hc.has_eq_true, hopen]
  cases hattempt : s.closeFailures[w.closeAttempts]?.join with
  | some f =>
    rw [hattempt] at hclose
    exact ⟨w.log, Action.perform_bind_of_error hclose⟩
  | none =>
    rw [hattempt] at hclose
    exact ⟨_, (Action.perform_bind_of_ok hclose).trans rfl⟩

lemma perform_close_of_closed (hc : c.Intact) (hclosed : c.closed = true) :
    c.close.perform s w = (.ok c, w) := by
  unfold close
  rw [hc.has_eq_true .close, hclosed]
  rfl

/-- A turn that closes the client does what closing does, and ends as it would by itself. -/
lemma perform_take_of_closes (ht : t.closes = true) :
    (c.take t).perform s w =
      match c.close.perform s w with
      | (.ok c', v) => (.ok (c', t.result), v)
      | (.error f, v) => (.error f, v) := by
  rcases hclose : c.close.perform s w with ⟨f | c', v⟩
  · cases t with
    | leave block =>
      exact Action.perform_bind_of_error (Action.perform_bind_of_error hclose)
    | use u =>
      cases u with
      | close => exact Action.perform_bind_of_error (Action.perform_bind_of_error hclose)
      | call accessor call => cases ht
  · cases t with
    | leave block =>
      have hleave : (c.leave block).perform s w = (.ok (c', block), v) :=
        Action.perform_bind_of_ok hclose
      exact Action.perform_bind_of_ok hleave
    | use u =>
      cases u with
      | close =>
        have huse : (c.use .close).perform s w = (.ok (c', none), v) :=
          Action.perform_bind_of_ok hclose
        exact Action.perform_bind_of_ok huse
      | call accessor call => cases ht

lemma perform_take_call (hc : c.Intact) (accessor : Option String) (call : Call) :
    (c.take (.use (.call accessor call))).perform s w =
      match refusal? accessor with
      | none => (((c.channel.invoke call).perform s w).1.map fun r => (c, .ok (some r)),
          ((c.channel.invoke call).perform s w).2)
      | some f => (.error f, w) := by
  have huse : (c.use (.call accessor call)).perform s w = _ := perform_use_call hc accessor
  unfold take
  rw [Action.perform_bind, huse]
  cases refusal? accessor with
  | some f => rfl
  | none =>
    cases ((c.channel.invoke call).perform s w).1 with
    | error f => rfl
    | ok r => rfl

/-- What is seen of such a turn is the reply. -/
lemma map_snd_reply (c : Client) (r : Except Failure Reply) :
    (r.map fun r => (c, (.ok (some r) : Except Failure (Option Reply)))).map Prod.snd =
      r.map fun r => .ok (some r) := by
  cases r with
  | error f => rfl
  | ok r => rfl

/-- A turn that closes the client is a step, whichever state the channel is in. -/
lemma exists_step_of_closes {x : ChannelState} (h : Holds n x c w) (ht : t.closes = true) :
    ∃ y, t.Steps n s x (observe take s c w t) y ∧
      Holds n y (afterUse c ((c.take t).perform s w).1) ((c.take t).perform s w).2 := by
  have htake := perform_take_of_closes (c := c) (s := s) (w := w) ht
  obtain ⟨rfl, hintact, hclosed, hisClosed⟩ := h
  unfold observe
  cases x with
  | shut =>
    rw [perform_close_of_closed hintact hclosed] at htake
    rw [htake]
    exact ⟨.shut, .again ht, rfl, hintact, hclosed, hisClosed⟩
  | live =>
    obtain ⟨log, hclose⟩ := perform_close_of_open (s := s) (w := w) hintact hclosed
    rw [hclose] at htake
    cases hattempt : s.closeFailures[w.closeAttempts]?.join with
    | some f =>
      rw [hattempt] at htake
      rw [htake]
      exact ⟨.live, .fails ht hattempt, rfl, hintact, hclosed, hisClosed⟩
    | none =>
      rw [hattempt] at htake
      rw [htake]
      refine ⟨.shut, .succeeds ht hattempt, rfl, ⟨hintact.stubs, hintact.lost⟩, rfl, ?_⟩
      simp [World.isClosed, ChannelState.isShut]

lemma exists_step_of_call {x : ChannelState} (h : Holds n x c w) (accessor : Option String)
    (call : Call) :
    Turn.Steps n s x (.use (.call accessor call)) (observe take s c w (.use (.call accessor call)))
        x ∧
      Holds n x (afterUse c ((c.take (.use (.call accessor call))).perform s w).1)
        ((c.take (.use (.call accessor call))).perform s w).2 := by
  have htake := perform_take_call (s := s) (w := w) h.intact accessor call
  obtain ⟨rfl, hintact, hclosed, hisClosed⟩ := h
  unfold observe
  cases haccessor : refusal? accessor with
  | some f =>
    rw [haccessor] at htake
    rw [htake]
    exact ⟨.unknown haccessor, rfl, hintact, hclosed, hisClosed⟩
  | none =>
    rw [haccessor] at htake
    obtain ⟨es, htrace, hclose⟩ := c.channel.exists_invoke_trace (s := s) (w := w) call
    cases x with
    | shut =>
      obtain ⟨f, es', hrun, hcall⟩ := c.channel.perform_invoke_of_closed (s := s) hisClosed call
      rw [hrun] at htake htrace
      obtain rfl : es' = es := List.append_cancel_left htrace
      rw [htake]
      exact ⟨.refused haccessor hisClosed hcall hclose, rfl, hintact, hclosed, hisClosed⟩
    | live =>
      have hworld := c.channel.invoke_closed (s := s) (w := w) call
      have hsame : ∀ r : Except Failure Reply, afterUse c
          (r.map fun r => (c, (.ok (some r) : Except Failure (Option Reply)))) = c := by
        rintro (f | r) <;> rfl
      rw [htake]
      dsimp only
      rw [map_snd_reply, hsame]
      refine ⟨.calls haccessor hisClosed rfl hworld ?_, rfl, hintact, hclosed, ?_⟩
      · unfold Observation.effects
        dsimp only
        rw [htrace, List.drop_left]
        exact hclose
      · unfold World.isClosed at hisClosed ⊢
        rw [hworld]
        exact hisClosed

lemma exists_step {x : ChannelState} (h : Holds n x c w) (t : Turn) :
    ∃ y, t.Steps n s x (observe take s c w t) y ∧
      Holds n y (afterUse c ((c.take t).perform s w).1) ((c.take t).perform s w).2 := by
  cases ht : t.closes with
  | true => exact exists_step_of_closes h ht
  | false =>
    cases t with
    | leave block => cases ht
    | use u =>
      cases u with
      | close => cases ht
      | call accessor call => exact ⟨x, exists_step_of_call h accessor call⟩

/-- Step by step, a session is a run of the machine. -/
lemma runs_of_holds {x : ChannelState} (h : Holds n x c w) (turns : List Turn) :
    Turn.Runs n s x w turns (session take s c w turns) := by
  induction turns generalizing x c w with
  | nil => exact .nil
  | cons t rest ih =>
    obtain ⟨y, hstep, hnext⟩ := exists_step (s := s) h t
    exact .cons hstep rfl (ih hnext)

end Taking

section Built

variable {e : Endpoint} {options : List ClientOption} {timeout : Value} {s : Surroundings}
  {w u : World} {c : Client}

lemma closed_of_proceed {deadline : Option Binary64}
    (h : (proceed e options deadline).perform s w = (.ok c, u)) : c.closed = false := by
  unfold proceed at h
  rw [Action.perform_bind_of_ok (Action.perform_record ..),
    Action.perform_bind_of_ok (Action.perform_get s _)] at h
  obtain ⟨channel, v, -, h⟩ := Action.perform_bind_eq_ok.mp h
  obtain ⟨stubs, v', -, h⟩ := Action.perform_bind_eq_ok.mp h
  rw [Action.perform_bind_of_ok (Action.perform_record ..), Action.perform_pure, Prod.mk.injEq,
    Except.ok.injEq] at h
  rw [← h.1]

lemma closed_of_connect (h : (connect e options timeout).perform s w = (.ok c, u)) :
    c.closed = false := by
  rw [perform_connect_eq] at h
  cases hd : timeout.duration? with
  | error f => simp [hd] at h
  | ok duration =>
    simp only [hd] at h
    obtain ⟨source, v, -, h⟩ := Action.perform_bind_eq_ok.mp h
    exact closed_of_proceed h

/-- A client that was built closes its channel with the first attempt that does not fail, in
whatever turns it is used, and attempts it neither before it is told to nor again. Until then it
serves calls as its open channel does, and afterwards no call gets to the channel. -/
theorem session_closes_once (h : (connect e options timeout).perform s w = (.ok c, u))
    {r : Surroundings} {v : World} (hopen : v.isClosed c.channel.number = false)
    (turns : List Turn) :
    Turn.Runs c.channel r .live v turns (session take r c v turns) := by
  obtain ⟨security, -, -, hintact, -⟩ := connect_eq_ok h
  have hclosed := closed_of_connect h
  have hholds : Holds c.channel .live c v := ⟨rfl, hintact, hclosed, hopen⟩
  exact runs_of_holds hholds turns

end Built

namespace Retried

/-! The first attempt to close the channel fails, and a block ends with a failure of its own. -/

def endpoint : Endpoint := ⟨.text "h", "443", .bool true⟩

def failing : Surroundings := { closeFailures := [some (.raised .runtime "boom")] }

def client : Client :=
  let channel : Channel := ⟨1, .tls .none, some ⟨.own, .bool true, none⟩, []⟩
  { channel, stubs := stubsOn channel }

def world : World := ((connect endpoint [] .none).perform failing {}).2

def call : Call := { kind := .unaryUnary, method := "/p.S/M", request := .text "r" }

def turns : List Turn := [
  .use .close, .use (.call (some "user_service_v2") call),
  .leave (.error (.raised .value "block")), .use .close, .use (.call none call)]

end Retried

open Retried in
theorem failed_close_is_retried :
    (connect endpoint [] .none).perform failing {} = (.ok client, world) ∧
      world.isClosed client.channel.number = false ∧
      Turn.Runs client.channel failing .live world turns
        (session take failing client world turns) ∧
      ((session take failing client world turns).map fun o => (o.outcome, o.effects)) = [
        (.error (.raised .runtime "boom"), [.close 1]),
        (.ok (.ok (some (.single "response"))),
          [.call 1 .unaryUnary (.text "r") call.details (some [])]),
        (.ok (.error (.raised .value "block")), [.close 1]),
        (.ok (.ok none), []),
        (.error .closedChannel, [])] := by
  have hconnect : (connect endpoint [] .none).perform failing {} = (.ok client, world) :=
    Prod.ext (by rfl) rfl
  have hopen : world.isClosed client.channel.number = false := by rfl
  exact ⟨hconnect, hopen, session_closes_once hconnect hopen turns, by rfl⟩

end Client

end SharedChannel
