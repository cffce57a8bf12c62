import SharedChannel.Proofs.Adding
import SharedChannel.Proofs.CallAgreement

/-!
# What a call can do

`Channel.Does` lists the effects that a call may have: it asks the sources of the channel's
providers, is seen by the channel's interceptors, and reaches the channel with the caller's
metadata, what each interceptor contributes and what the credential plugin grants.
`Client.session_does` says that nothing else happens in a session of a client.
-/

namespace SharedChannel

/-- All entries that a call carries, in its details or from the credential plugin. -/
def Effect.carried : Effect → Metadata
  | call _ _ _ d plugin => d.metadata.getD [] ++ plugin.getD []
  | _ => []

/-- The provider gives these entries in some world. -/
def Provider.Grants (p : Provider) (m : Metadata) : Prop := ∃ w, p.granted w = .ok m

/-- The entries of a provider, or none without one. -/
def Provider.Yields : Option Provider → Metadata → Prop
  | some p, m => p.Grants m
  | none, m => m = []

namespace Interceptor

/-- What an interceptor may add to a call of the given kind. -/
def Contributes (kind : CallKind) : Interceptor → Metadata → Prop
  | authorizing (some p), m => p.Grants m
  | authorizing none, _ => False
  | i, m => m = i.added kind

def provider? : Interceptor → Option Provider
  | authorizing p => p
  | _ => none

end Interceptor

namespace Channel

/-- The providers that calls on the channel may ask. -/
def providers (c : Channel) : List Provider :=
  c.plugin.toList ++ c.interceptors.filterMap Interceptor.provider?

/-- What the transport may add to a call. -/
def Plugs (c : Channel) (plugin : Option Metadata) : Prop :=
  match c.security with
  | .plaintext => plugin = none
  | .tls _ => ∃ m, plugin = some m ∧ Provider.Yields c.plugin m

/-- The effects that a call on the channel may have. -/
inductive Does (c : Channel) (call : Call) : Effect → Prop where
  | ask {p : Provider} {t : TokenSource} (hp : p ∈ c.providers) (ht : p.source = some t) :
      Does c call (.ask t.name)
  | refuse {p : Provider} {f : Failure} (hp : c.plugin = some p) : Does c call (.pluginFailure f)
  | intercept {label : String} {kinds : List CallKind} {add : List Header}
      {failure : Option Failure} {d : CallDetails}
      (hi : .custom label kinds add failure ∈ c.interceptors) :
      Does c call (.intercept label call.kind d)
  | call {d : CallDetails} {plugin : Option Metadata} {parts : List Metadata}
      (hparts : List.Forall₂ (Interceptor.Contributes call.kind) c.interceptors parts)
      (hd : d.Extends call.details parts.flatten) (hplugin : c.Plugs plugin) :
      Does c call (.call c.number call.kind call.request d plugin)

section Calling

variable {c : Channel} {call : Call} {s : Surroundings} {d : CallDetails}

lemma asking_does {p : Provider} (hp : p ∈ c.providers) : ∀ e ∈ p.asking, c.Does call e := by
  intro e he
  obtain ⟨t, ht, rfl⟩ := List.mem_map.mp he
  exact .ask hp (by simpa using ht)

lemma entries_does {p : Provider} (hp : p ∈ c.providers) :
    p.entries.Adds s (c.Does call) p.Grants := by
  intro w
  rw [p.perform_entries]
  exact ⟨⟨p.asking, rfl, asking_does hp⟩, fun m hm => ⟨w, hm⟩⟩

lemma grantedEntries_does {p : Provider} (hp : c.plugin = some p) (d : CallDetails) :
    (grantedEntries p d).Adds s (c.Does call) p.Grants := by
  have hasking : ∀ e ∈ p.asking, c.Does call e := asking_does (by simp [providers, hp])
  intro w
  obtain ⟨log, hrun⟩ := perform_grantedEntries (s := s) (w := w) p d
  rw [hrun]
  cases hg : p.granted w with
  | ok m =>
    refine ⟨⟨p.asking, rfl, hasking⟩, ?_⟩
    rintro _ ⟨⟩
    exact ⟨w, hg⟩
  | error f =>
    refine ⟨⟨p.asking ++ Provider.notice f, rfl, ?_⟩, nofun⟩
    rw [List.forall_mem_append, Provider.notice]
    refine ⟨hasking, ?_⟩
    split
    · simpa using .refuse hp
    · simp

lemma pluginMetadata_does (d : CallDetails) :
    (c.pluginMetadata d).Adds s (c.Does call) c.Plugs := by
  rw [pluginMetadata]
  split
  · next hplain => exact .pure (by rw [Plugs, hplain])
  · next htls hnone =>
    refine .pure ?_
    rw [Plugs, htls, hnone]
    exact ⟨[], rfl, rfl⟩
  · next roots p htls hp =>
    refine .map (grantedEntries_does hp d) fun m hm => ?_
    rw [Plugs, htls, hp]
    exact ⟨m, rfl, hm⟩

lemma transmit_does {parts : List Metadata}
    (hparts : List.Forall₂ (Interceptor.Contributes call.kind) c.interceptors parts)
    (hd : d.Extends call.details parts.flatten) :
    (c.transmit call.kind call.request d).Adds s (c.Does call) fun _ => True := by
  refine .bind .read fun s' _ => .bind .get fun w _ => ?_
  split
  · exact .throw_bind _
  · refine .bind (pluginMetadata_does d) fun plugin hplugin => ?_
    exact .bind (.emit (.call hparts hd hplugin)) fun _ _ => .ofExcept _ fun _ _ => trivial

/-- A call comes through the interceptors with what those it has passed contribute. -/
lemma through_does (before : List Interceptor) {rest : List Interceptor} (parts : List Metadata)
    (hsplit : c.interceptors = before ++ rest)
    (hparts : List.Forall₂ (Interceptor.Contributes call.kind) before parts)
    (hd : d.Extends call.details parts.flatten) :
    (c.through call.kind call.request rest d).Adds s (c.Does call) fun _ => True := by
  induction rest generalizing before parts d with
  | nil =>
    rw [List.append_nil] at hsplit
    rw [← hsplit] at hparts
    exact transmit_does hparts hd
  | cons i rest ih =>
    have hmem : i ∈ c.interceptors := by simp [hsplit]
    have hextras : d.extras.isSome = true := by rw [hd.extras]; rfl
    have hnext : ∀ m, i.Contributes call.kind m →
        (c.through call.kind call.request rest (d.extend m)).Adds s (c.Does call)
          fun _ => True := by
      intro m hm
      refine ih (before ++ [i]) (parts ++ [m]) ?_ ?_ ?_
      · rw [hsplit, List.append_assoc, List.singleton_append]
      · exact List.rel_append hparts (.cons hm .nil)
      · rw [List.flatten_append, List.flatten_singleton]
        exact (CallDetails.extend_extends hextras m).trans hd
    -- to pass a call on as it is means to contribute nothing
    have hskip : i.Contributes call.kind [] →
        (c.through call.kind call.request rest d).Adds s (c.Does call) fun _ => True := by
      intro hnil
      have h := hnext [] hnil
      rwa [CallDetails.extend, List.isEmpty_nil, if_pos rfl] at h
    rw [through]
    cases i with
    | other text => exact hskip rfl
    | custom label kinds add failure =>
      rw [Interceptor.around]
      split
      · next hkind =>
        refine .bind (.emit (.intercept hmem)) fun _ _ => .bind (.raise failure) fun _ _ => ?_
        exact hnext _ (if_pos hkind).symm
      · next hkind => exact hskip (if_neg hkind).symm
    | authorizing p =>
      cases p with
      | none => exact .bind (Q := fun _ => False) (.throw _) fun _ h => h.elim
      | some p =>
        have hp : p ∈ c.providers :=
          List.mem_append_right _ (List.mem_filterMap.mpr ⟨_, hmem, rfl⟩)
        have hauthorize : (Provider.authorize (some p) d).Adds s (c.Does call)
            fun d' => ∃ m, p.Grants m ∧ d' = d.extend m :=
          .bind (entries_does hp) fun m hm => .pure ⟨m, hm, rfl⟩
        refine .bind hauthorize ?_
        rintro _ ⟨m, hm, rfl⟩
        exact hnext m hm

/-- The effects of a call are among those that a call on the channel may have. -/
theorem invoke_does (c : Channel) (call : Call) :
    (c.invoke call).Adds s (c.Does call) fun _ => True :=
  through_does [] [] rfl .nil ⟨rfl, rfl, rfl, (List.append_nil _).symm⟩

theorem session_does (c : Channel) (w : World) (calls : List Call) :
    List.Forall₂ (fun call o => ∀ e ∈ o.effects, c.Does call e) calls
      (session use s c w calls) := by
  refine forall_effects_session (P := c.Does) (I := fun x => x = c) ?_ rfl w calls
  rintro _ call rfl
  exact .bind (invoke_does _ call) fun _ _ => .pure rfl

end Calling

end Channel

/-- The effects that a use of a client with the channel may have. -/
def Use.Does (c : Channel) : Use → Effect → Prop
  | .call _ made, e => c.Does made e
  | .close, e => e = .close c.number

namespace Client

variable {c : Client} {s : Surroundings}

lemma close_does (hc : c.Intact) :
    c.close.Adds s (Use.close.Does c.channel) fun c' => c'.channel = c.channel ∧ c'.Intact := by
  have hchannel : c.channel.close.Adds s (Use.close.Does c.channel) fun _ => True :=
    .closeChannel rfl
  rw [close]
  split
  · exact .throw_bind _
  · split
    · exact .pure ⟨rfl, hc⟩
    · split
      · exact .throw_bind _
      · exact .bind hchannel fun _ _ => .bind .record fun _ _ => .pure ⟨rfl, hc.stubs, hc.lost⟩

/-- Whatever a client is used for, its channel stays, and nothing but that use happens. -/
lemma use_does (hc : c.Intact) (u : Use) :
    (c.use u).Adds s (u.Does c.channel) fun r => r.1.channel = c.channel ∧ r.1.Intact := by
  cases u with
  | call accessor call =>
    have hchannel : ∀ channel, c.channelFor accessor = .ok channel → channel = c.channel := by
      intro channel h
      rw [hc.channelFor] at h
      split at h
      · exact (Except.ok.inj h).symm
      · cases h
    refine .bind (Q := fun channel => channel = c.channel) (.ofExcept _ hchannel) ?_
    rintro _ rfl
    exact .bind (c.channel.invoke_does call) fun _ _ => .pure ⟨rfl, hc⟩
  | close => exact .bind (close_does hc) fun c' hc' => .pure hc'

/-- In a session of a client each use has effects of its own on the client's channel alone. -/
theorem session_does (hc : c.Intact) (w : World) (uses : List Use) :
    List.Forall₂ (fun u o => ∀ e ∈ o.effects, u.Does c.channel e) uses
      (session use s c w uses) := by
  refine forall_effects_session (P := fun u => u.Does c.channel)
    (I := fun x : Client => x.channel = c.channel ∧ x.Intact) ?_ ⟨rfl, hc⟩ w uses
  rintro x u ⟨hx, hintact⟩
  have h := use_does (s := s) hintact u
  rwa [hx] at h

end Client

end SharedChannel
