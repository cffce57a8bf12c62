import SharedChannel.Proofs.CallEffects

/-!
# Where metadata comes from

Each entry that a call carries was given by the caller or comes from a provider of its channel: the
credential plugin, or the provider of an authorizing interceptor. `Channel.issuers` lists these
providers, and `Channel.Does.carries` says so of whatever a call may do.
-/

namespace SharedChannel

/-- Whether an entry comes from the provider that a client makes for itself. -/
def Entry.isOwn (entry : Entry) : Bool := entry.issuer == some .own

/-- Entries that come from a provider come from one of the given names. -/
def Metadata.IssuedBy (names : List ProviderName) (entries : Metadata) : Prop :=
  ∀ entry ∈ entries, ∀ n, entry.issuer = some n → n ∈ names

def Effect.Carries (names : List ProviderName) (e : Effect) : Prop :=
  Metadata.IssuedBy names e.carried

namespace Metadata

variable {names : List ProviderName} {l m : Metadata}

lemma issuedBy_nil : IssuedBy names [] := by
  simp [IssuedBy]

lemma IssuedBy.append (hl : IssuedBy names l) (hm : IssuedBy names m) :
    IssuedBy names (l ++ m) := by
  intro entry hentry
  rw [List.mem_append] at hentry
  exact hentry.elim (hl entry) (hm entry)

lemma IssuedBy.mono {more : List ProviderName} (h : IssuedBy names l) (hnames : names ⊆ more) :
    IssuedBy more l :=
  fun entry hentry n hn => hnames (h entry hentry n hn)

lemma issuedBy_ofHeader (headers : List Header) : IssuedBy names (headers.map Entry.ofHeader) := by
  intro entry hentry n hn
  obtain ⟨header, -, rfl⟩ := List.mem_map.mp hentry
  simp [Entry.ofHeader] at hn

lemma issuedBy_details (call : Call) : IssuedBy names (call.details.metadata.getD []) := by
  rw [Call.details]
  cases call.metadata with
  | none => exact issuedBy_nil
  | some headers => exact issuedBy_ofHeader headers

end Metadata

def Interceptor.issuer? : Interceptor → Option ProviderName
  | authorizing p => p.map (·.name)
  | _ => none

/-- The providers whose entries the calls of a channel may carry. -/
def Channel.issuers (c : Channel) : List ProviderName :=
  c.plugin.toList.map (·.name) ++ c.interceptors.filterMap Interceptor.issuer?

section Following

variable {s : Surroundings} {names : List ProviderName}

lemma Provider.Grants.issuedBy {p : Provider} {m : Metadata} (h : p.Grants m) :
    Metadata.IssuedBy [p.name] m := by
  obtain ⟨w, hw⟩ := h
  rw [granted] at hw
  cases hsource : p.source with
  | none =>
    rw [hsource] at hw
    rw [← Except.ok.inj hw]
    exact Metadata.issuedBy_nil
  | some t =>
    rw [hsource] at hw
    cases hvalue : t.header (w.asks t.name) with
    | error f => simp [hvalue, Except.map] at hw
    | ok value =>
      simp only [hvalue, Except.map, Except.ok.injEq] at hw
      rw [← hw]
      intro entry hentry n hn
      rw [List.mem_singleton.mp hentry] at hn
      simpa using hn.symm

lemma Interceptor.Contributes.issuedBy {i : Interceptor} {kind : CallKind} {m : Metadata}
    (h : i.Contributes kind m) : Metadata.IssuedBy i.issuer?.toList m := by
  cases i with
  | other text =>
    rw [show m = [] from h]
    exact Metadata.issuedBy_nil
  | custom label kinds add failure =>
    rw [show m = added kind (.custom label kinds add failure) from h, added]
    split
    · exact Metadata.issuedBy_ofHeader add
    · exact Metadata.issuedBy_nil
  | authorizing p =>
    cases p with
    | none => exact h.elim
    | some p => exact Provider.Grants.issuedBy h

lemma issuedBy_flatten {kind : CallKind} {interceptors : List Interceptor} {parts : List Metadata}
    (h : List.Forall₂ (Interceptor.Contributes kind) interceptors parts) :
    Metadata.IssuedBy (interceptors.filterMap Interceptor.issuer?) parts.flatten := by
  induction h with
  | nil => exact Metadata.issuedBy_nil
  | @cons i m interceptors parts hi _ ih =>
    rw [List.flatten_cons]
    refine .append (hi.issuedBy.mono ?_) (ih.mono ?_)
    · intro n hn
      exact List.mem_filterMap.mpr ⟨i, List.mem_cons_self, by simpa using hn⟩
    · intro n hn
      obtain ⟨j, hj, hjn⟩ := List.mem_filterMap.mp hn
      exact List.mem_filterMap.mpr ⟨j, List.mem_cons_of_mem _ hj, hjn⟩

namespace Channel

variable {c : Channel}

lemma Plugs.issuedBy {plugin : Option Metadata} (h : c.Plugs plugin) :
    Metadata.IssuedBy (c.plugin.toList.map (·.name)) (plugin.getD []) := by
  rw [Plugs] at h
  split at h
  · rw [h]
    exact Metadata.issuedBy_nil
  · obtain ⟨m, rfl, hm⟩ := h
    cases hp : c.plugin with
    | none =>
      rw [hp] at hm
      rw [show m = [] from hm]
      exact Metadata.issuedBy_nil
    | some p =>
      rw [hp] at hm
      exact Provider.Grants.issuedBy hm

/-- The calls of a channel carry entries of the caller and of the channel's own providers alone. -/
theorem Does.carries {call : Call} {e : Effect} (h : c.Does call e) : e.Carries c.issuers := by
  cases h with
  | call hparts hd hplugin =>
    rw [Effect.Carries, Effect.carried, hd.metadata]
    refine .append (.append (Metadata.issuedBy_details call) ?_) ?_
    · exact (issuedBy_flatten hparts).mono (List.subset_append_right _ _)
    · exact hplugin.issuedBy.mono (List.subset_append_left _ _)
  | _ => exact Metadata.issuedBy_nil

/-- All calls of a session on a channel carry entries of the caller and of its providers alone. -/
theorem session_carries (w : World) (calls : List Call) :
    ∀ o ∈ session use s c w calls, ∀ e ∈ o.effects, e.Carries c.issuers := by
  intro o ho e he
  obtain ⟨call, -, hdoes⟩ := exists_of_mem_forall₂ (c.session_does w calls) ho
  exact (hdoes e he).carries

end Channel

namespace Client

theorem session_carries {c : Client} (hc : c.Intact) (w : World) (uses : List Use) :
    ∀ o ∈ session use s c w uses, ∀ e ∈ o.effects, e.Carries c.channel.issuers := by
  intro o ho e he
  obtain ⟨u, -, hdoes⟩ := exists_of_mem_forall₂ (session_does hc w uses) ho
  have hdone : u.Does c.channel e := hdoes e he
  cases u with
  | call accessor call => exact hdone.carries
  | close =>
    rw [show e = .close c.channel.number from hdone]
    exact Metadata.issuedBy_nil

end Client

end Following

end SharedChannel
