import SharedChannel.Proofs.OptionOrder
import SharedChannel.Proofs.Stage

/-!
# Dialing in stages

`Dial.stages` lists what opening a channel does for given settings: the credentials, the channel
itself, the wait for it to be ready and the interceptors around it. `dial_follows` says that a dial
goes through them in order, `dial_eq_ok` what channel a successful one gives.
-/

namespace SharedChannel

/-- Building answers two failures by closing the channel: a readiness wait that runs out of time,
and an ordinary failure of a stub. The latter is recorded before that, so one without a text closes
nothing, and what is reported is why it has none. -/
def Guard.ofClient : Guard where
  closes
    | .readiness, f => f.kind == .timeout
    | .stub, f => f.isReportable
    | _, _ => false
  reports
    | .stub, f => f.escaping
    | _, f => f

lemma Guard.reports_ofClient {p : Phase} {f : Failure}
    (h : p = .stub → f.isOrdinary = true → f.isMute = false) : ofClient.reports p f = f := by
  cases p with
  | stub => exact Failure.escaping_eq_iff.mpr (h rfl)
  | _ => rfl

lemma Guard.reports_of_closes {p : Phase} {f : Failure} (h : ofClient.closes p f = true) :
    ofClient.reports p f = f := by
  refine reports_ofClient ?_
  rintro rfl -
  exact Failure.isMute_of_isReportable h

namespace Dial

/-- The channel that settings give, once it is open under its number. -/
def channelOf (security : Security) (d : DialSettings) (number : Nat) : Channel :=
  match security with
  | .tls roots => ⟨number, .tls roots, d.callCredentials, d.interceptors⟩
  | .plaintext =>
    ⟨number, .plaintext, none,
      (d.callCredentials.toList.map fun p => .authorizing (some p)) ++ d.interceptors⟩

/-- The channel as it is opened, before interceptors are put around it. -/
def bareChannel (security : Security) (d : DialSettings) (number : Nat) : Channel :=
  { channelOf security d number with interceptors := [] }

@[simp] lemma channelOf_interceptors (security : Security) (d : DialSettings) (number : Nat) :
    (channelOf security d number).interceptors = interceptors security d := by
  cases security <;> rfl

@[simp] lemma channelOf_number (security : Security) (d : DialSettings) (number : Nat) :
    (channelOf security d number).number = number := by
  cases security <;> rfl

@[simp] lemma channelOf_security (security : Security) (d : DialSettings) (number : Nat) :
    (channelOf security d number).security = security := by
  cases security <;> rfl

/-- Making call credentials of the provider, where they are allowed. -/
def credentialsStage (host : String) (d : DialSettings) (failure : Option Failure) : Stage where
  phase := .credentials
  effects :=
    match d.security, d.callCredentials with
    | some (.tls _), some p => [.callCredentials p.name Provider.authorizationKey]
    | _, _ => []
  failure :=
    match d.security, d.callCredentials with
    | none, _ => some .noTransport
    | some .plaintext, some p => if p.requiresTls then some (.plaintextCredentials host) else none
    | some (.tls _), some _ => failure
    | _, none => none

/-- Putting call credentials and TLS credentials together. -/
def compositionStage (d : DialSettings) (failure : Option Failure) : Stage where
  phase := .composition
  effects :=
    match d.security, d.callCredentials with
    | some (.tls _), some _ => [.compositeCredentials [Provider.authorizationKey]]
    | _, _ => []
  failure :=
    match d.security, d.callCredentials with
    | some (.tls _), some _ => failure
    | _, _ => none

def openingStage (host : String) (d : DialSettings) (failure : Option Failure) : Stage where
  phase := .opening
  effects :=
    match d.security with
    | some (.tls roots) =>
      [.secureChannel host roots (d.callCredentials.toList.map fun _ => Provider.authorizationKey)
        d.channelOptions d.compression]
    | _ => [.plainChannel host d.channelOptions d.compression]
  failure := failure

def readinessStage (d : DialSettings) (ready : Readiness) (budget : Value) (number : Nat) : Stage :=
  if d.block then
    { phase := .readiness
      effects := [.readiness number, .readyWait budget]
      failure := (failureOf ready.takes.duration?).or ready.failure }
  else { phase := .readiness }

def wrappingStage (d : DialSettings) (failure : Option Failure) (number : Nat) : Stage :=
  let around := interceptors (d.security.getD .plaintext) d
  if around.isEmpty then { phase := .wrapping }
  else
    { phase := .wrapping
      effects := [.wrap number (around.map (·.label))]
      failure := if around.all (·.isValid) then failure else some .notAnInterceptor }

@[simp] lemma credentialsStage_phase (host : String) (d : DialSettings)
    (failure : Option Failure) : (credentialsStage host d failure).phase = .credentials := rfl

@[simp] lemma compositionStage_phase (d : DialSettings) (failure : Option Failure) :
    (compositionStage d failure).phase = .composition := rfl

@[simp] lemma openingStage_phase (host : String) (d : DialSettings) (failure : Option Failure) :
    (openingStage host d failure).phase = .opening := rfl

@[simp] lemma readinessStage_phase (d : DialSettings) (ready : Readiness) (budget : Value)
    (number : Nat) : (readinessStage d ready budget number).phase = .readiness := by
  rw [readinessStage]
  split <;> rfl

@[simp] lemma wrappingStage_phase (d : DialSettings) (failure : Option Failure) (number : Nat) :
    (wrappingStage d failure number).phase = .wrapping := by
  simp only [wrappingStage]
  split <;> rfl

/-- The stages of dialing. -/
def stages (host : String) (d : DialSettings) (s : Surroundings) (budget : Value) (number : Nat) :
    List Stage :=
  [credentialsStage host d s.callCredentialsFailure, compositionStage d s.compositionFailure,
    openingStage host d s.channelFailure, readinessStage d s.ready budget number,
    wrappingStage d s.wrapFailure number]

/-- The stages up to the opening of the channel. -/
def openingStages (host : String) (d : DialSettings) (s : Surroundings) : List Stage :=
  [credentialsStage host d s.callCredentialsFailure, compositionStage d s.compositionFailure,
    openingStage host d s.channelFailure]

section Following

variable {channel : Nat} {closing : Option Failure} {s : Surroundings} {w v : World}

lemma openChannel_follows {guard : Guard} (e : Effect) (hg : ∀ f, guard.closes .opening f = false)
    (hr : ∀ f, guard.reports .opening f = f) :
    Follows guard channel closing
      [{ phase := .opening, effects := [e], failure := s.channelFailure }] w
      ((Action.openChannel e).perform s w) := by
  rw [Action.perform_openChannel]
  cases h : s.channelFailure with
  | some f =>
    have hrun : Follows guard channel closing [⟨.opening, [e], some f⟩] w
        ((.error (guard.reports .opening f), { w with trace := w.trace ++ [e] }) :
          Except Failure Nat × World) := .error rfl (hg f) rfl rfl rfl
    rwa [hr] at hrun
  | none =>
    refine ⟨?_, rfl, ?_, ?_⟩
    · simp [Stage.history, Stage.reached, Stage.firstFailure, cleanup, isGuarded]
    · simp [Stage.openings, Stage.reached]
    · simp [Stage.firstFailure, closings, isGuarded]

/-- Opens the channel that the settings ask for. -/
def establish (host : String) (d : DialSettings) : Action Channel :=
  match d.security with
  | none => throw .noTransport
  | some (.tls roots) => openSecure host roots d
  | some .plaintext => openPlain host d

/-- What a dial does once its channel is open. -/
def finish (host : String) (d : DialSettings) (budget : Value) (c : Channel) : Action Channel := do
  Action.record .debug logger (summary host c.security d)
  if d.block then awaitReady host c.number budget
  intercept c (interceptors c.security d)

lemma dial_eq (host : String) (options : List DialOption) (budget : Value) :
    dial host options budget =
      establish host (.ofOptions options) >>= finish host (.ofOptions options) budget := by
  rw [dial, establish]
  rcases (DialSettings.ofOptions options).security with _ | _ | _ <;> rfl

lemma openSecure_follows (host : String) (roots : Value) (d : DialSettings)
    (hd : d.security = some (.tls roots)) :
    Follows .ofClient channel closing (openingStages host d s) w
      ((openSecure host roots d).perform s w) := by
  rw [openSecure, openingStages, openingStage, hd]
  cases hc : d.callCredentials with
  | none =>
    have hcredentials : credentialsStage host d s.callCredentialsFailure =
        { phase := .credentials } := by
      simp [credentialsStage, hd, hc]
    have hcomposition : compositionStage d s.compositionFailure = { phase := .composition } := by
      simp [compositionStage, hd, hc]
    rw [hcredentials, hcomposition]
    refine .idle nofun (.idle nofun ?_)
    exact (openChannel_follows _ (fun _ => rfl) fun _ => rfl).bind_pure
  | some p =>
    have hcredentials : credentialsStage host d s.callCredentialsFailure =
        ⟨.credentials, [.callCredentials p.name Provider.authorizationKey],
          s.callCredentialsFailure⟩ := by
      simp [credentialsStage, hd, hc]
    have hcomposition : compositionStage d s.compositionFailure =
        ⟨.composition, [.compositeCredentials [Provider.authorizationKey]],
          s.compositionFailure⟩ := by
      simp [compositionStage, hd, hc]
    rw [hcredentials, hcomposition]
    simp only [pure_bind]
    refine .emit_raise nofun (fun _ => rfl) (fun _ => rfl) ?_
    refine .emit_raise nofun (fun _ => rfl) (fun _ => rfl) ?_
    exact (openChannel_follows _ (fun _ => rfl) fun _ => rfl).bind_pure

lemma openPlain_follows (host : String) (d : DialSettings) (hd : d.security = some .plaintext) :
    Follows .ofClient channel closing (openingStages host d s) w
      ((openPlain host d).perform s w) := by
  have hcomposition : compositionStage d s.compositionFailure = { phase := .composition } := by
    simp [compositionStage, hd]
  have hopen : Follows .ofClient channel closing
      [compositionStage d s.compositionFailure, openingStage host d s.channelFailure] w
      ((Action.openChannel (.plainChannel host d.channelOptions d.compression)).perform s w) := by
    rw [hcomposition]
    refine .idle nofun ?_
    simp only [openingStage, hd]
    exact openChannel_follows _ (fun _ => rfl) fun _ => rfl
  rw [openPlain, openingStages]
  cases hc : d.callCredentials with
  | none =>
    refine .cons (v := w) ?_ (by simp) ?_ rfl rfl hopen.bind_pure
    · simp [credentialsStage, hd, hc]
    · simp [credentialsStage, hd, hc]
  | some p =>
    dsimp only
    cases hp : p.requiresTls with
    | true =>
      refine .error (f := .plaintextCredentials host) ?_ rfl ?_ rfl rfl
      · simp [credentialsStage, hd, hc, hp]
      · simp [credentialsStage, hd, hc]
    | false =>
      refine .cons (v := w) ?_ (by simp) ?_ rfl rfl hopen.bind_pure
      · simp [credentialsStage, hd, hc, hp]
      · simp [credentialsStage, hd, hc]

lemma establish_follows (host : String) (d : DialSettings) :
    Follows .ofClient channel closing (openingStages host d s) w
      ((establish host d).perform s w) := by
  rw [establish]
  cases hd : d.security with
  | none =>
    refine .error (f := .noTransport) ?_ rfl ?_ rfl rfl
    · simp [credentialsStage, hd]
    · simp [credentialsStage, hd]
  | some security =>
    cases security with
    | plaintext => exact openPlain_follows host d hd
    | tls roots => exact openSecure_follows host roots d hd

/-- A channel that is opened gets the next number. -/
lemma openChannel_eq_ok {e : Effect} {number : Nat}
    (h : (Action.openChannel e).perform s w = (.ok number, v)) : number = w.opened + 1 := by
  rw [Action.perform_openChannel] at h
  cases hf : s.channelFailure with
  | some f => simp [hf] at h
  | none =>
    rw [hf] at h
    simpa using (congrArg Prod.fst h).symm

lemma openSecure_eq_ok {host : String} {roots : Value} {d : DialSettings} {c : Channel}
    (h : (openSecure host roots d).perform s w = (.ok c, v)) :
    c = bareChannel (.tls roots) d (w.opened + 1) := by
  rw [openSecure] at h
  cases hc : d.callCredentials with
  | none =>
    simp only [hc, pure_bind] at h
    obtain ⟨number, u, hopen, h⟩ := Action.perform_bind_eq_ok.mp h
    rw [Action.perform_pure, Prod.mk.injEq, Except.ok.injEq] at h
    rw [← h.1, openChannel_eq_ok hopen, bareChannel, channelOf, hc]
  | some p =>
    simp only [hc, pure_bind] at h
    rw [Action.perform_bind_of_ok (Action.perform_emit ..),
      Action.perform_bind_of_ok (Action.perform_read ..)] at h
    obtain ⟨_, u, hcredentials, h'⟩ := Action.perform_bind_eq_ok.mp h
    rw [Action.perform_bind_of_ok (Action.perform_emit ..),
      Action.perform_bind_of_ok (Action.perform_read ..)] at h'
    obtain ⟨_, u', hcomposition, h''⟩ := Action.perform_bind_eq_ok.mp h'
    obtain ⟨number, v', hopen, hlast⟩ := Action.perform_bind_eq_ok.mp h''
    rw [Action.perform_pure, Prod.mk.injEq, Except.ok.injEq] at hlast
    -- until then no channel is opened
    have hu : u.opened = w.opened := by rw [Action.eq_of_raise_eq_ok hcredentials]
    have hu' : u'.opened = u.opened := by rw [Action.eq_of_raise_eq_ok hcomposition]
    rw [← hlast.1, openChannel_eq_ok hopen, hu', hu, bareChannel, channelOf, hc]

lemma openPlain_eq_ok {host : String} {d : DialSettings} {c : Channel}
    (h : (openPlain host d).perform s w = (.ok c, v)) :
    c = bareChannel .plaintext d (w.opened + 1) ∧
      ∀ p, d.callCredentials = some p → p.requiresTls = false := by
  rw [openPlain] at h
  cases hc : d.callCredentials with
  | none =>
    simp only [hc] at h
    obtain ⟨number, u, hopen, h⟩ := Action.perform_bind_eq_ok.mp h
    rw [Action.perform_pure, Prod.mk.injEq, Except.ok.injEq] at h
    refine ⟨?_, nofun⟩
    rw [← h.1, openChannel_eq_ok hopen, bareChannel, channelOf]
  | some p =>
    simp only [hc] at h
    cases hp : p.requiresTls with
    | true => simp [hp, Action.perform_bind] at h
    | false =>
      simp only [hp] at h
      obtain ⟨number, u, hopen, h⟩ := Action.perform_bind_eq_ok.mp h
      rw [Action.perform_pure, Prod.mk.injEq, Except.ok.injEq] at h
      refine ⟨?_, ?_⟩
      · rw [← h.1, openChannel_eq_ok hopen, bareChannel, channelOf]
      · rintro q ⟨⟩
        exact hp

lemma establish_eq_ok {host : String} {d : DialSettings} {c : Channel}
    (h : (establish host d).perform s w = (.ok c, v)) :
    ∃ security, d.security = some security ∧ c = bareChannel security d (w.opened + 1) ∧
      (security = .plaintext → ∀ p, d.callCredentials = some p → p.requiresTls = false) := by
  rw [establish] at h
  cases hd : d.security with
  | none => simp [hd] at h
  | some security =>
    simp only [hd] at h
    cases security with
    | tls roots => exact ⟨.tls roots, rfl, openSecure_eq_ok h, nofun⟩
    | plaintext =>
      obtain ⟨hchannel, hcredentials⟩ := openPlain_eq_ok h
      exact ⟨.plaintext, rfl, hchannel, fun _ => hcredentials⟩

lemma wait_follows (d : DialSettings) (budget : Value) (hd : d.block = true) :
    Follows .never channel closing [readinessStage d s.ready budget channel] w
      ((wait channel budget).perform s w) := by
  rw [readinessStage, if_pos hd, wait]
  refine .emit (.emit ?_)
  rw [Action.perform_bind_of_ok (Action.perform_read s _)]
  rw [Action.perform_bind, Action.perform_pass]
  cases s.ready.takes.duration? with
  | error f => exact .error rfl rfl (by simp) rfl rfl
  | ok limit =>
    cases s.ready.failure with
    | none => exact .ok rfl nofun (by simp) rfl rfl
    | some f => exact .error rfl rfl (by simp) rfl rfl

lemma readinessStage_tidy (d : DialSettings) (ready : Readiness) (budget : Value) (number : Nat) :
    (readinessStage d ready budget number).Tidy := by
  rw [readinessStage]
  split <;> simp [Stage.Tidy, Effect.phase?]

lemma awaitReady_follows (host : String) (d : DialSettings) (budget : Value)
    (hd : d.block = true) (hbudget : budget.isOverlong = false)
    (hclosing : closing = s.closeFailures[w.closeAttempts]?.join) :
    Follows .ofClient channel closing [readinessStage d s.ready budget channel] w
      ((awaitReady host channel budget).perform s w) := by
  have hlimit : budget.toText = .ok budget.inFull := Value.toText_eq_ok_iff.mpr ⟨hbudget, rfl⟩
  rw [awaitReady]
  refine .rescue ?_ (wait_follows d budget hd) ?_ ?_
  · simpa using readinessStage_tidy d s.ready budget channel
  · rintro ⟨⟩ v
    exact .nil rfl rfl rfl
  · intro p f v hfirst hv
    obtain ⟨x, hx, rfl, hf⟩ := Stage.exists_mem_of_firstFailure hfirst
    obtain rfl := List.mem_singleton.mp hx
    rw [hclosing, ← hv, readinessStage_phase]
    dsimp only
    split
    · refine .close v.log (by simpa [Guard.ofClient]) fun u => ?_
      rw [Action.perform_bind, Action.perform_ofExcept, hlimit]
      dsimp only
      rw [Action.perform_bind_of_ok (Action.perform_record ..)]
      exact ⟨_, rfl⟩
    · exact .pass (by simpa [Guard.ofClient])

lemma wrappingStage_tidy (d : DialSettings) (failure : Option Failure) (number : Nat) :
    (wrappingStage d failure number).Tidy := by
  simp only [wrappingStage]
  split <;> simp [Stage.Tidy, Effect.phase?]

lemma intercept_follows {security : Security} (d : DialSettings)
    (hd : d.security = some security) :
    Follows .ofClient channel closing [wrappingStage d s.wrapFailure channel] w
      ((intercept (bareChannel security d channel) (interceptors security d)).perform s w) := by
  simp only [wrappingStage, intercept, hd, Option.getD_some]
  split
  · exact .idle nofun (.nil rfl rfl rfl)
  · have hnumber : (bareChannel security d channel).number = channel := channelOf_number ..
    rw [hnumber]
    refine .emit ?_
    cases (interceptors security d).all (·.isValid) with
    | false => exact .error rfl rfl (by simp) rfl rfl
    | true =>
      change Follows _ _ _ _ _ ((Action.raise s.wrapFailure >>= _).perform s _)
      cases hf : s.wrapFailure with
      | none => exact .ok rfl nofun (by simp) rfl rfl
      | some f => exact .error rfl rfl (by simp) rfl rfl

lemma finish_follows {security : Security} (host : String) (d : DialSettings) (budget : Value)
    (hd : d.security = some security) (hbudget : budget.isOverlong = false)
    (hclosing : closing = s.closeFailures[w.closeAttempts]?.join) :
    Follows .ofClient channel closing
      [readinessStage d s.ready budget channel, wrappingStage d s.wrapFailure channel] w
      ((finish host d budget (bareChannel security d channel)).perform s w) := by
  have hnumber : (bareChannel security d channel).number = channel := channelOf_number ..
  have hsecurity : (bareChannel security d channel).security = security := channelOf_security ..
  rw [finish, Action.perform_bind_of_ok (Action.perform_record ..), hnumber, hsecurity]
  cases hb : d.block with
  | false =>
    rw [readinessStage, hb]
    exact .idle nofun ((intercept_follows d hd).of_same_history rfl rfl rfl)
  | true =>
    refine .of_same_history
      (Follows.bind (l := [_]) (awaitReady_follows host d budget hb hbudget ?_) ?_) rfl rfl rfl
    · exact hclosing
    · intro _ v _
      exact intercept_follows d hd

lemma credentialsStage_tidy (host : String) (d : DialSettings) (failure : Option Failure) :
    (credentialsStage host d failure).Tidy := by
  rw [Stage.Tidy, credentialsStage]
  rcases d.security with _ | _ | _ <;> rcases d.callCredentials with _ | _ <;> simp [Effect.phase?]

lemma compositionStage_tidy (d : DialSettings) (failure : Option Failure) :
    (compositionStage d failure).Tidy := by
  rw [Stage.Tidy, compositionStage]
  rcases d.security with _ | _ | _ <;> rcases d.callCredentials with _ | _ <;> simp [Effect.phase?]

lemma openingStage_tidy (host : String) (d : DialSettings) (failure : Option Failure) :
    (openingStage host d failure).Tidy := by
  rw [Stage.Tidy, openingStage]
  rcases d.security with _ | _ | _ <;> simp [Effect.phase?]

lemma openingStages_tidy (host : String) (d : DialSettings) :
    ∀ x ∈ openingStages host d s, x.Tidy := by
  simp only [openingStages, List.forall_mem_cons]
  exact ⟨credentialsStage_tidy host d _, compositionStage_tidy d _, openingStage_tidy host d _,
    by simp⟩

lemma stages_tidy (host : String) (d : DialSettings) (budget : Value) (number : Nat) :
    ∀ x ∈ stages host d s budget number, x.Tidy := by
  simp only [stages, List.forall_mem_cons]
  exact ⟨credentialsStage_tidy host d _, compositionStage_tidy d _, openingStage_tidy host d _,
    readinessStage_tidy d _ budget _, wrappingStage_tidy d _ _, by simp⟩

/-- A dial goes through its stages in order. -/
theorem dial_follows (host : String) (options : List DialOption) (budget : Value)
    (hbudget : budget.isOverlong = false) (hchannel : channel = w.opened + 1)
    (hclosing : closing = s.closeFailures[w.closeAttempts]?.join) :
    Follows .ofClient channel closing (stages host (.ofOptions options) s budget channel) w
      ((dial host options budget).perform s w) := by
  rw [dial_eq]
  refine Follows.bind (l := openingStages ..) (establish_follows host _) ?_
  intro c v hc
  obtain ⟨security, hsecurity, rfl, -⟩ := establish_eq_ok hc
  rw [← hchannel]
  refine finish_follows host _ budget hsecurity hbudget ?_
  have hrun : Follows .ofClient channel closing (openingStages host (.ofOptions options) s) w
      ((.ok _, v) : Except Failure Channel × World) := hc ▸ establish_follows host _
  rw [hclosing, hrun.closeAttempts_of_ok (openingStages_tidy host _)]

/-- Putting interceptors around a channel gives it those, and nothing else. -/
lemma intercept_eq_ok {b c : Channel} {around : List Interceptor} (hb : b.interceptors = [])
    (h : (intercept b around).perform s w = (.ok c, v)) :
    c = { b with interceptors := around } := by
  rw [intercept] at h
  split at h
  case isTrue hempty =>
    rw [Action.perform_pure, Prod.mk.injEq, Except.ok.injEq] at h
    rw [← h.1, List.isEmpty_iff.mp hempty, ← hb]
  case isFalse =>
    rw [Action.perform_bind_of_ok (Action.perform_emit ..)] at h
    cases hvalid : around.all (·.isValid) with
    | false => simp [hvalid, Action.perform_bind] at h
    | true =>
      simp only [hvalid, Bool.not_true, Bool.false_eq_true, if_false] at h
      rw [Action.perform_bind_of_ok (Action.perform_read ..)] at h
      obtain ⟨-, u, -, h⟩ := Action.perform_bind_eq_ok.mp h
      rw [Action.perform_pure, Prod.mk.injEq, Except.ok.injEq] at h
      exact h.1.symm

lemma finish_eq_ok {security : Security} {number : Nat} {host : String} {d : DialSettings}
    {budget : Value} {c : Channel}
    (h : (finish host d budget (bareChannel security d number)).perform s w = (.ok c, v)) :
    c = channelOf security d number := by
  have hsecurity : (bareChannel security d number).security = security := channelOf_security ..
  have hall : { bareChannel security d number with interceptors := interceptors security d } =
      channelOf security d number := by
    cases security <;> rfl
  rw [finish, Action.perform_bind_of_ok (Action.perform_record ..), hsecurity] at h
  cases hd : d.block with
  | false =>
    simp only [hd] at h
    rw [← hall]
    exact intercept_eq_ok rfl h
  | true =>
    simp only [hd] at h
    obtain ⟨-, u, -, h⟩ := Action.perform_bind_eq_ok.mp h
    rw [← hall]
    exact intercept_eq_ok rfl h

/-- The channel of a dial that succeeds: it has the security and the provider in effect, and on
plaintext the provider does not require TLS. -/
theorem dial_eq_ok {host : String} {options : List DialOption} {budget : Value} {c : Channel}
    (h : (dial host options budget).perform s w = (.ok c, v)) :
    ∃ security, DialOption.lastSecurity options = some security ∧
      c = channelOf security (.ofOptions options) (w.opened + 1) ∧
      (security = .plaintext →
        ∀ p, DialOption.lastProvider options = some p → p.requiresTls = false) := by
  rw [dial_eq] at h
  obtain ⟨b, u, hb, h⟩ := Action.perform_bind_eq_ok.mp h
  obtain ⟨security, hsecurity, rfl, hprovider⟩ := establish_eq_ok hb
  rw [DialOption.ofOptions_security] at hsecurity
  rw [DialOption.ofOptions_callCredentials] at hprovider
  exact ⟨security, hsecurity, finish_eq_ok h, hprovider⟩

end Following

end Dial

end SharedChannel
