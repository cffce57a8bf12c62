import SharedChannel.Proofs.Issuers

/-!
# Tokens that require TLS

A provider that requires TLS never gets onto a plaintext channel as the provider in effect: a dial
refuses before it opens anything. So the provider that a client makes for a TLS endpoint has no part
in the calls of a plaintext channel, whatever the options of the caller turn the channel into.
-/

namespace SharedChannel

/-- The opening of a plaintext channel. -/
def Effect.isPlainOpening : Effect → Bool
  | plainChannel .. => true
  | _ => false

namespace DialOption

def providerNames : DialOption → List ProviderName
  | perCallCredentials provider => provider.toList.map (·.name)
  | interceptors added => added.filterMap Interceptor.issuer?
  | _ => []

/-- Behind the mandatory options, the provider in effect is theirs or one of the caller's. -/
lemma lastProvider_withMandatory_cases {security : Option Security} {own : Option Provider}
    {extra : List DialOption} {p : Provider}
    (h : lastProvider (withMandatory security own extra) = some p) :
    own = some p ∨ p.name ∈ extra.flatMap providerNames := by
  rw [lastProvider_withMandatory] at h
  cases hl : (extra.filterMap provider?).getLast? with
  | none =>
    rw [hl] at h
    exact .inl h
  | some q =>
    rw [hl] at h
    obtain rfl : q = some p := h
    obtain ⟨o, ho, hop⟩ := List.mem_filterMap.mp (List.mem_of_getLast? hl)
    refine .inr (List.mem_flatMap.mpr ⟨o, ho, ?_⟩)
    cases o with
    | perCallCredentials provider =>
      obtain rfl : provider = some p := Option.some.inj hop
      simp [providerNames]
    | transportCredentials _ | channelOption _ _ | interceptors _ | compression _ | block =>
      simp [provider?] at hop

lemma issuer_mem_providerNames {options : List DialOption} {n : ProviderName}
    (h : n ∈ (options.flatMap addedInterceptors).filterMap Interceptor.issuer?) :
    n ∈ options.flatMap providerNames := by
  obtain ⟨i, hi, hn⟩ := List.mem_filterMap.mp h
  obtain ⟨o, ho, hio⟩ := List.mem_flatMap.mp hi
  refine List.mem_flatMap.mpr ⟨o, ho, ?_⟩
  cases o with
  | interceptors added => exact List.mem_filterMap.mpr ⟨i, hio, hn⟩
  | transportCredentials _ | perCallCredentials _ | channelOption _ _ | compression _ | block =>
    simp [addedInterceptors] at hio

end DialOption

/-- The names of the providers that the caller gives. -/
def ClientOption.providerNames (options : List ClientOption) : List ProviderName :=
  (dialOptions options).flatMap DialOption.providerNames

namespace Dial

variable {host : String} {options : List DialOption} {budget : Value} {s : Surroundings} {w : World}

/-- Where the opening of a plaintext channel is reached, the provider does not require TLS. -/
lemma requiresTls_of_plainOpening {d : DialSettings} {effect : Effect}
    (h : effect ∈ Stage.history (openingStages host d s))
    (hplain : effect.isPlainOpening = true) {p : Provider} (hp : d.callCredentials = some p) :
    p.requiresTls = false := by
  have hopening : effect.phase? = some .opening := by
    cases effect <;> simp [Effect.isPlainOpening, Effect.phase?] at hplain ⊢
  obtain ⟨x, hx, hex⟩ := List.mem_flatMap.mp h
  have hx' := Stage.reached_sublist.subset hx
  have hphase : x.phase = .opening := by
    have htidy := openingStages_tidy (s := s) host d x hx'
    rw [htidy effect hex] at hopening
    exact Option.some.inj hopening
  rw [openingStages, Stage.reached] at hx
  split at hx
  · rw [List.mem_singleton] at hx
    rw [hx] at hphase
    simp at hphase
  · next hfailure =>
    simp only [openingStages, List.mem_cons, List.not_mem_nil, or_false] at hx'
    obtain rfl | rfl | rfl := hx'
    · simp at hphase
    · simp at hphase
    · -- the credentials were fine, and the channel is not a secure one
      rw [openingStage] at hex
      rw [credentialsStage] at hfailure
      cases hd : d.security with
      | none => simp [hd] at hfailure
      | some security =>
        cases security with
        | tls roots =>
          simp only [hd, List.mem_singleton] at hex
          simp [hex, Effect.isPlainOpening] at hplain
        | plaintext => simpa [hd, hp] using hfailure

/-- Once its channel is open, a dial opens no other one. -/
lemma finish_opens_nothing (host : String) (budget : Value) (s : Surroundings) (d : DialSettings)
    (c : Channel) :
    (finish host d budget c).Adds s (fun e => e.isPlainOpening = false) fun _ => True := by
  have hintercept : (intercept c (interceptors c.security d)).Adds s
      (fun e => e.isPlainOpening = false) fun _ => True := by
    rw [intercept]
    split
    · exact .pure trivial
    · refine .bind (.emit rfl) fun _ _ => ?_
      split
      · exact .throw_bind _
      · exact .bind .read fun _ _ => .bind (.raise _) fun _ _ => .pure trivial
  have hwait : (wait c.number budget).Adds s (fun e => e.isPlainOpening = false) fun _ => True :=
    .bind (.emit rfl) fun _ _ => .bind (.emit rfl) fun _ _ => .bind .read fun _ _ =>
      .bind (.pass _) fun _ _ => .raise _
  have hawait : (awaitReady host c.number budget).Adds s
      (fun e => e.isPlainOpening = false) fun _ => True := by
    refine .bind (.attempt hwait) fun r _ => ?_
    cases r with
    | ok u => exact .pure trivial
    | error f =>
      dsimp only
      split
      · refine .bind (.closeChannel rfl) fun _ _ => ?_
        exact .bind (.ofExcept (Q := fun _ => True) _ fun _ _ => trivial) fun _ _ =>
          .bind .record fun _ _ => .throw f
      · exact .throw f
  rw [finish]
  refine .bind .record fun _ _ => ?_
  split
  · exact .bind hawait fun _ _ => hintercept
  · exact hintercept

/-- A plaintext channel is refused to a provider that requires TLS. Nothing has happened by then. -/
lemma dial_plaintext_refused {p : Provider} (hs : DialOption.lastSecurity options = some .plaintext)
    (hp : DialOption.lastProvider options = some p) (ht : p.requiresTls = true) :
    (dial host options budget).perform s w = (.error (.plaintextCredentials host), w) := by
  rw [← DialOption.ofOptions_security] at hs
  rw [← DialOption.ofOptions_callCredentials] at hp
  rw [dial_eq, establish, hs]
  refine Action.perform_bind_of_error ?_
  dsimp only
  rw [openPlain, hp]
  dsimp only
  rw [ht]
  rfl

lemma requiresTls_of_plainOpening_dial {effect : Effect}
    (h : effect ∈ ((dial host options budget).perform s w).2.trace.drop w.trace.length)
    (hplain : effect.isPlainOpening = true) {p : Provider}
    (hp : DialOption.lastProvider options = some p) : p.requiresTls = false := by
  rw [← DialOption.ofOptions_callCredentials] at hp
  -- the trace up to the opening, and what is added to it by then
  have hopening : ∀ {r : Except Failure Channel} {v : World},
      (establish host (.ofOptions options)).perform s w = (r, v) →
        ∃ es, v.trace = w.trace ++ es ∧
          ∀ e ∈ es, e.isPlainOpening = true → p.requiresTls = false := by
    intro r v hrun
    have hfollows : Follows .ofClient (w.opened + 1) none
        (openingStages host (.ofOptions options) s) w
        ((establish host (.ofOptions options)).perform s w) := establish_follows host _
    rw [hrun] at hfollows
    refine ⟨_, by rw [hfollows.trace, List.append_assoc], fun e he hopens => ?_⟩
    obtain he | he := List.mem_append.mp he
    · exact requiresTls_of_plainOpening he hopens hp
    · rw [cleanup] at he
      split at he
      · rw [List.mem_singleton.mp he] at hopens
        cases hopens
      · cases he
  rw [dial_eq] at h
  rcases hrun : (establish host (.ofOptions options)).perform s w with ⟨f | c, v⟩
  · obtain ⟨es, htrace, hes⟩ := hopening hrun
    rw [Action.perform_bind_of_error hrun, htrace, List.drop_left] at h
    exact hes effect h hplain
  · obtain ⟨es, htrace, hes⟩ := hopening hrun
    obtain ⟨⟨more, hmore, hnone⟩, -⟩ :=
      finish_opens_nothing host budget s (.ofOptions options) c v
    rw [Action.perform_bind_of_ok hrun, hmore, htrace, List.append_assoc, List.drop_left,
      List.mem_append] at h
    obtain h | h := h
    · exact hes effect h hplain
    · rw [hnone effect h] at hplain
      cases hplain

lemma issuers_channelOf_plaintext (options : List DialOption) (number : Nat) :
    (channelOf .plaintext (.ofOptions options) number).issuers =
      (DialOption.lastProvider options).toList.map (·.name) ++
        (options.flatMap DialOption.addedInterceptors).filterMap Interceptor.issuer? := by
  rw [Channel.issuers, channelOf, DialOption.ofOptions_callCredentials,
    DialOption.ofOptions_interceptors]
  dsimp only
  rw [List.filterMap_append]
  cases DialOption.lastProvider options with
  | none => rfl
  | some p => rfl

/-- On the plaintext channel of a dial, what a provider issued comes from one in effect that does
not require TLS, or from an interceptor of the caller. -/
lemma issuer_of_dialed {c : Channel} {v : World}
    (h : (dial host options budget).perform s w = (.ok c, v)) (hc : c.security = .plaintext)
    {n : ProviderName} (hn : n ∈ c.issuers) :
    (∃ p, DialOption.lastProvider options = some p ∧ p.requiresTls = false ∧ p.name = n) ∨
      n ∈ (options.flatMap DialOption.addedInterceptors).filterMap Interceptor.issuer? := by
  obtain ⟨security, -, rfl, hprovider⟩ := dial_eq_ok h
  rw [channelOf_security] at hc
  subst hc
  rw [issuers_channelOf_plaintext, List.mem_append] at hn
  refine hn.imp_left fun hn => ?_
  obtain ⟨p, hp, rfl⟩ := List.mem_map.mp hn
  rw [Option.mem_toList] at hp
  exact ⟨p, hp, hprovider rfl p hp, rfl⟩

end Dial

namespace Client

/-- The plaintext channel of a client for a TLS endpoint has providers of the caller alone: the one
that the client makes for itself requires TLS. -/
lemma issuers_subset_providerNames {e : Endpoint} {options : List ClientOption} {timeout : Value}
    {s : Surroundings} {w v : World} {c : Client} (htls : e.isTls = true)
    (h : (connect e options timeout).perform s w = (.ok c, v))
    (hc : c.channel.security = .plaintext) :
    c.channel.issuers ⊆ ClientOption.providerNames options := by
  obtain ⟨security, -, hchannel, -, hprovider⟩ := connect_eq_ok h
  rw [hchannel, Dial.channelOf_security] at hc
  subst hc
  have hinterceptors : (allDialOptions e options).flatMap DialOption.addedInterceptors =
      ClientOption.interceptors options := rfl
  intro n hn
  rw [hchannel, Dial.issuers_channelOf_plaintext, List.mem_append, hinterceptors] at hn
  obtain hn | hn := hn
  · obtain ⟨p, hp, rfl⟩ := List.mem_map.mp hn
    rw [Option.mem_toList] at hp
    have hplain := hprovider rfl p hp
    obtain hmade | hgiven := DialOption.lastProvider_withMandatory_cases hp
    · -- with the client's own provider in effect, dialing would have failed
      obtain rfl := Option.some.inj hmade
      rw [Provider.requiresTls, ownProvider] at hplain
      rw [Endpoint.isTls] at htls
      simp [htls] at hplain
    · exact hgiven
  · exact DialOption.issuer_mem_providerNames hn

end Client

/-- A token that requires TLS stays off plaintext channels. A dial opens a plaintext channel only if
the provider in effect does not require TLS, and with one that does it fails before anything
happens; on the plaintext channel that it gives, what calls carry comes from the caller, from such a
provider or from the interceptors of the caller. So on the plaintext channel of a client for a TLS
endpoint, whatever the options and however the client is used, calls carry entries of the caller's
providers alone, and none of the provider that the client makes for itself. -/
theorem tls_token_stays_off_plaintext :
    (∀ host options budget s w, ∀ effect ∈
        ((dial host options budget).perform s w).2.trace.drop w.trace.length,
      effect.isPlainOpening = true →
        ∀ p, DialOption.lastProvider options = some p → p.requiresTls = false) ∧
    (∀ host options budget s w p, DialOption.lastSecurity options = some .plaintext →
      DialOption.lastProvider options = some p → p.requiresTls = true →
        (dial host options budget).perform s w = (.error (.plaintextCredentials host), w) ∧
          (Failure.plaintextCredentials host).kind = .transportSecurity) ∧
    (∀ host options budget s w c v, (dial host options budget).perform s w = (.ok c, v) →
      c.security = .plaintext → ∀ s' u calls, ∀ o ∈ session Channel.use s' c u calls,
        ∀ effect ∈ o.effects, ∀ entry ∈ effect.carried, ∀ n, entry.issuer = some n →
          (∃ p, DialOption.lastProvider options = some p ∧ p.requiresTls = false ∧ p.name = n) ∨
            n ∈ (options.flatMap DialOption.addedInterceptors).filterMap Interceptor.issuer?) ∧
    (∀ e options timeout s w c v, e.isTls = true →
      (Client.connect e options timeout).perform s w = (.ok c, v) →
        c.channel.security = .plaintext → ∀ s' u uses, ∀ o ∈ session Client.use s' c u uses,
          ∀ effect ∈ o.effects, ∀ entry ∈ effect.carried, ∀ n, entry.issuer = some n →
            n ∈ ClientOption.providerNames options ∧
              (.own ∉ ClientOption.providerNames options → n ≠ .own)) := by
  refine ⟨?_, ?_, ?_, ?_⟩
  · intro host options budget s w effect heffect hplain p hp
    exact Dial.requiresTls_of_plainOpening_dial heffect hplain hp
  · intro host options budget s w p hs hp ht
    exact ⟨Dial.dial_plaintext_refused hs hp ht, rfl⟩
  · intro host options budget s w c v hdial hc s' u calls o ho effect heffect entry hentry n hn
    have hissuer := c.session_carries u calls o ho effect heffect entry hentry n hn
    exact Dial.issuer_of_dialed hdial hc hissuer
  · intro e options timeout s w c v htls hconnect hc s' u uses o ho effect heffect entry hentry n hn
    obtain ⟨-, -, -, hintact, -⟩ := Client.connect_eq_ok hconnect
    have hissuer := Client.session_carries hintact u uses o ho effect heffect entry hentry n hn
    have hcaller := Client.issuers_subset_providerNames htls hconnect hc hissuer
    refine ⟨hcaller, ?_⟩
    rintro hown rfl
    exact hown hcaller

namespace Override

/-! A caller takes a client for a TLS endpoint to plaintext, with a provider that allows it. -/

def endpoint : Endpoint := ⟨.text "h", "443", .bool true⟩

def given : Provider :=
  ⟨.labelled "open", .bool false, some (.fixed (.given 0) { accessToken := .text "public" })⟩

def options : List ClientOption := [.auth (some (.personal (.text "secret"))),
  .dial [.transportCredentials (some .plaintext), .perCallCredentials (some given)]]

def channel : Channel := ⟨1, .plaintext, none, [.authorizing (some given)]⟩

def client : Client := { channel, stubs := Client.stubsOn channel }

def world : World := ((Client.connect endpoint options .none).perform {} {}).2

def uses : List Use :=
  [.call none { kind := .unaryUnary, method := "/p.S/M", request := .text "r" }, .close]

lemma perform_connect :
    (Client.connect endpoint options .none).perform {} {} = (.ok client, world) :=
  Prod.ext (by rfl) rfl

/-- Calls carry the token of the provider that is given, and never the personal token. -/
theorem personal_token_stays_off_plaintext :
    endpoint.isTls = true ∧ .own ∉ ClientOption.providerNames options ∧
    (Client.connect endpoint options .none).perform {} {} = (.ok client, world) ∧
    client.channel.security = .plaintext ∧
    ((session Client.use {} client world uses).flatMap (·.effects)).flatMap (·.carried) =
      [⟨"authorization", "Bearer public", some (.labelled "open")⟩] ∧
    ∀ o ∈ session Client.use {} client world uses, ∀ effect ∈ o.effects,
      ∀ entry ∈ effect.carried, entry.issuer ≠ some .own := by
  have htls : endpoint.isTls = true := rfl
  have hown : .own ∉ ClientOption.providerNames options := by decide
  refine ⟨htls, hown, perform_connect, rfl, by rfl, ?_⟩
  intro o ho effect heffect entry hentry hissuer
  obtain ⟨-, hne⟩ := tls_token_stays_off_plaintext.2.2.2 endpoint options .none {} {} client world
    htls perform_connect rfl {} world uses o ho effect heffect entry hentry .own hissuer
  exact hne hown rfl

end Override

end SharedChannel
