import SharedChannel.Proofs.LinearBuild

/-!
# The failure that callers see

A failed building raises the failure of its first failing step as it is. Another one takes its place
in two cases: building answers a failure by an attempt to close the channel, and that attempt fails
itself; or a stub fails without a text, so that there is nothing to record.
-/

namespace SharedChannel

/-- The end of a wait for readiness that fails. -/
def Readiness.Fails (ready : Readiness) (f : Failure) : Prop :=
  ready.takes.duration? = .error f ∨ ready.failure = some f

/-- Why there is no stub of a service: it cannot be loaded, or its constructor fails. -/
def Service.Fails (supply : Supply) (f : Failure) (service : Service) : Prop :=
  supply.load service.path service.stub = .error f ∨
    (∃ definition, supply.load service.path service.stub = .ok definition) ∧
      supply.failing.lookup service.accessor = some f

section Verdicts

variable {closing : Option Failure} {p : Phase} {f g : Failure}

/-- A failure stays what it is if it is reported as it is and no attempt to close the channel fails
in another way. -/
lemma verdict_eq_self_iff : verdict .ofClient closing (some (p, f)) = some f ↔
    Guard.ofClient.reports p f = f ∧
      (Guard.ofClient.closes p f = true → ∀ g, closing = some g → g = f) := by
  rw [verdict, Option.map_some, Option.some.injEq]
  cases hcloses : Guard.ofClient.closes p f with
  | false => simp
  | true => cases closing <;> simp [Guard.reports_of_closes hcloses]

/-- The only failures that are not reported as they are: those of stubs that have no text. -/
lemma reports_ofClient_eq_iff : Guard.ofClient.reports p f = f ↔
    (p = .stub → f.isOrdinary = true → f.isMute = false) := by
  refine ⟨?_, Guard.reports_ofClient⟩
  rintro h rfl
  exact Failure.escaping_eq_iff.mp h

/-- Another failure takes the place of a failure only if closing the channel fails, or if a stub
fails without a text. -/
lemma cause_of_verdict_ne (h : verdict .ofClient closing (some (p, f)) = some g) (hne : g ≠ f) :
    Guard.ofClient.closes p f = true ∧ closing = some g ∨
      p = .stub ∧ f.isOrdinary = true ∧ f.message = .error g := by
  rw [verdict, Option.map_some, Option.some.injEq] at h
  dsimp only at h
  cases hcloses : Guard.ofClient.closes p f with
  | true =>
    rw [hcloses, if_pos rfl] at h
    cases hclosing : closing with
    | some g' =>
      rw [hclosing] at h
      exact .inl ⟨rfl, congrArg some h⟩
    | none =>
      rw [hclosing, Option.getD_none, Guard.reports_of_closes hcloses] at h
      exact absurd h.symm hne
  | false =>
    rw [hcloses, if_neg Bool.false_ne_true] at h
    have hreports : ¬ (p = .stub → f.isOrdinary = true → f.isMute = false) := by
      rwa [← reports_ofClient_eq_iff, h]
    obtain ⟨rfl, hordinary, hmute⟩ : p = .stub ∧ f.isOrdinary = true ∧ f.isMute = true := by
      simpa using hreports
    have hg : f.escaping = g := h
    rw [Failure.escaping, if_pos hordinary] at hg
    rw [← hg]
    exact .inr ⟨rfl, hordinary, Failure.message_of_mute hmute⟩

end Verdicts

namespace Client

/-- What makes a phase of building fail. In most phases it is a collaborator that fails; in the
others building itself refuses to go on. -/
def FailsBy (e : Endpoint) (options : List ClientOption) (timeout : Value) (s : Surroundings)
    (f : Failure) : Phase → Prop
  | .timing => timeout.duration? = .error f
  | .initialization => ∃ i, ClientOption.lastAuth options = some i ∧ i.outcome = .error f
  | .deadline => f = .initializationTimeout
  | .transport => f = .missingServerDomain ∨ s.tlsFailure = some f
  | .credentials =>
    f = .noTransport ∨ f = .plaintextCredentials e.host ∨ s.callCredentialsFailure = some f
  | .composition => s.compositionFailure = some f
  | .opening => s.channelFailure = some f
  | .readiness => s.ready.Fails f
  | .wrapping => f = .notAnInterceptor ∨ s.wrapFailure = some f
  | .stub => ∃ service ∈ Service.all, service.Fails s.supply f

section Causes

variable {e : Endpoint} {options : List ClientOption} {timeout : Value} {s : Surroundings}
  {w : World} {p : Phase} {f : Failure}

lemma initializationStage_failsBy {budget : Value}
    (h : (initializationStage e.origin budget (ClientOption.lastAuth options)).failure = some f) :
    FailsBy e options timeout s f .initialization := by
  cases hi : ClientOption.lastAuth options with
  | none => simp [hi, initializationStage] at h
  | some i =>
    rw [hi] at h
    exact ⟨i, hi, eq_error_of_failureOf h⟩

lemma deadlineStage_failsBy {deadline : Option Binary64} {clock : Binary64}
    (h : (deadlineStage deadline clock (ClientOption.lastAuth options)).failure = some f) :
    f = .initializationTimeout := by
  cases hi : ClientOption.lastAuth options with
  | none => simp [hi, deadlineStage] at h
  | some i =>
    simp only [hi, deadlineStage] at h
    split at h
    · exact (Option.some.inj h).symm
    · simp at h

lemma transportStage_failsBy (h : (transportStage e s.tlsFailure).failure = some f) :
    FailsBy e options timeout s f .transport := by
  simp only [transportStage] at h
  split at h
  · split at h
    · exact .inr h
    · exact .inl (Option.some.inj h).symm
  · simp at h

lemma credentialsStage_failsBy {d : DialSettings}
    (h : (Dial.credentialsStage e.host d s.callCredentialsFailure).failure = some f) :
    FailsBy e options timeout s f .credentials := by
  simp only [Dial.credentialsStage] at h
  split at h
  · exact .inl (Option.some.inj h).symm
  · split at h
    · exact .inr (.inl (Option.some.inj h).symm)
    · simp at h
  · exact .inr (.inr h)
  · simp at h

lemma compositionStage_failsBy {d : DialSettings}
    (h : (Dial.compositionStage d s.compositionFailure).failure = some f) :
    FailsBy e options timeout s f .composition := by
  simp only [Dial.compositionStage] at h
  split at h
  · exact h
  · simp at h

lemma readinessStage_failsBy {d : DialSettings} {ready : Readiness} {budget : Value}
    {number : Nat} (h : (Dial.readinessStage d ready budget number).failure = some f) :
    ready.Fails f := by
  rw [Dial.readinessStage] at h
  split at h
  · obtain htakes | ⟨-, hfailure⟩ := Option.or_eq_some_iff.mp h
    · exact .inl (eq_error_of_failureOf htakes)
    · exact .inr hfailure
  · simp at h

lemma wrappingStage_failsBy {d : DialSettings} {number : Nat}
    (h : (Dial.wrappingStage d s.wrapFailure number).failure = some f) :
    FailsBy e options timeout s f .wrapping := by
  simp only [Dial.wrappingStage] at h
  split at h
  · simp at h
  · dsimp only at h
    split at h
    · exact .inr h
    · exact .inl (Option.some.inj h).symm

lemma stage_failsBy {supply : Supply} {number : Nat} {service : Service}
    (hservice : service ∈ Service.all) (h : (service.stage supply number).failure = some f) :
    service.Fails supply f := by
  have houtcome : (supply.outcome service).failure? service = some f := h
  have hload := Supply.load_eq (s := supply) hservice
  have hlookup := Supply.lookup_failing supply service
  rw [Service.Fails, hload]
  rw [houtcome] at hlookup
  cases ho : supply.outcome service with
  | built =>
    rw [ho] at houtcome
    cases houtcome
  | failing g =>
    rw [ho] at hlookup
    exact .inr ⟨⟨_, rfl⟩, hlookup rfl⟩
  | absent | missing | broken g | classless =>
    rw [ho] at houtcome
    exact .inl (congrArg Except.error (Option.some.inj houtcome))

/-- The first failure of the plan is that of the collaborator in whose phase it is. -/
lemma failsBy_of_firstFailure
    (h : Stage.firstFailure (plan e options timeout s w) = some (p, f)) :
    FailsBy e options timeout s f p := by
  obtain ⟨x, hx, rfl, hf⟩ := Stage.exists_mem_of_firstFailure h
  rw [plan, List.mem_append, List.mem_append] at hx
  obtain (hx | hx) | hx := hx
  · simp only [List.mem_cons, List.not_mem_nil, or_false] at hx
    obtain rfl | rfl | rfl | rfl := hx
    · exact eq_error_of_failureOf hf
    · rw [initializationStage_phase]
      exact initializationStage_failsBy hf
    · rw [deadlineStage_phase]
      exact deadlineStage_failsBy hf
    · exact transportStage_failsBy hf
  · simp only [Dial.stages, List.mem_cons, List.not_mem_nil, or_false] at hx
    obtain rfl | rfl | rfl | rfl | rfl := hx
    · exact credentialsStage_failsBy hf
    · exact compositionStage_failsBy hf
    · exact hf
    · rw [Dial.readinessStage_phase]
      exact readinessStage_failsBy hf
    · rw [Dial.wrappingStage_phase]
      exact wrappingStage_failsBy hf
  · obtain ⟨service, hservice, rfl⟩ := List.mem_map.mp hx
    rw [stage_phase]
    exact ⟨service, hservice, stage_failsBy hservice hf⟩

end Causes

/-- Building fails if and only if one of its steps does, and then callers see the failure of the
first such step, as it is, if and only if it is not that of a stub without a text, and no attempt to
close the channel answers it with another failure. What takes its place then is the failure of that
attempt, or what stands in the way of the text. -/
theorem connect_failure_surfaces_iff (e : Endpoint) (options : List ClientOption) (timeout : Value)
    (s : Surroundings) (w : World) :
    let failed := Stage.firstFailure (plan e options timeout s w)
    let closing := s.closeFailures[w.closeAttempts]?.join
    let out := (connect e options timeout).perform s w
    (failed = none ↔ ∃ c, out.1 = .ok c) ∧
    ∀ p f, failed = some (p, f) →
      FailsBy e options timeout s f p ∧
      (out.1 = .error f ↔ (p = .stub → f.isOrdinary = true → f.isMute = false) ∧
        (Guard.ofClient.closes p f = true → ∀ g, closing = some g → g = f)) ∧
      ∃ g, out.1 = .error g ∧ (g ≠ f →
        Guard.ofClient.closes p f = true ∧ closing = some g ∧
          .close (w.opened + 1) ∈ out.2.trace.drop w.trace.length ∨
        p = .stub ∧ f.isOrdinary = true ∧ f.message = .error g) := by
  intro failed closing out
  have hrun := connect_follows e options timeout s w
  have hfailure : failureOf out.1 = verdict .ofClient closing failed := hrun.failure
  have htrace : out.2.trace.drop w.trace.length =
      Stage.history (plan e options timeout s w) ++
        cleanup .ofClient (w.opened + 1) failed := by
    rw [hrun.trace, List.append_assoc, List.drop_left]
  refine ⟨?_, ?_⟩
  · constructor
    · intro h
      rw [h] at hfailure
      cases hout : out.1 with
      | ok c => exact ⟨c, rfl⟩
      | error f => simp [hout, verdict] at hfailure
    · rintro ⟨c, hc⟩
      rw [hc] at hfailure
      exact Option.map_eq_none_iff.mp hfailure.symm
  · intro p f h
    rw [h] at hfailure htrace
    obtain ⟨g, hg⟩ : ∃ g, verdict .ofClient closing (some (p, f)) = some g := ⟨_, rfl⟩
    have hout : out.1 = .error g := eq_error_of_failureOf (hfailure.trans hg)
    refine ⟨failsBy_of_firstFailure h, ?_, g, hout, ?_⟩
    · rw [← reports_ofClient_eq_iff, ← verdict_eq_self_iff, hout, hg, Except.error.injEq,
        Option.some.injEq]
    · intro hne
      obtain ⟨hcloses, hclosing⟩ | hmute := cause_of_verdict_ne hg hne
      · refine .inl ⟨hcloses, hclosing, ?_⟩
        rw [htrace]
        simp [cleanup, isGuarded, hcloses]
      · exact .inr hmute

/-- A stub that cannot be loaded is answered by closing the channel, and its failure surfaces. -/
theorem missing_stub_surfaces :
    let e : Endpoint := ⟨.text "h", "443", .bool true⟩
    let s : Surroundings := { supply := { missing := ["auth_service"] } }
    let f : Failure := .missingModule "zitadel.auth_pb2_grpc"
    Stage.firstFailure (plan e [] .none s {}) = some (.stub, f) ∧
    (Guard.ofClient.closes .stub f = true → ∀ g, s.closeFailures[0]?.join = some g → g = f) ∧
    FailsBy e [] .none s f .stub ∧ ((connect e [] .none).perform s {}).1 = .error f := by
  intro e s f
  have hfirst : Stage.firstFailure (plan e [] .none s {}) = some (.stub, f) := by rfl
  have hclosing : Guard.ofClient.closes .stub f = true →
      ∀ g, s.closeFailures[0]?.join = some g → g = f := by
    rintro - g ⟨⟩
  obtain ⟨hcause, hiff, -⟩ := (connect_failure_surfaces_iff e [] .none s {}).2 _ _ hfirst
  exact ⟨hfirst, hclosing, hcause, hiff.mpr ⟨fun _ _ => rfl, hclosing⟩⟩

/-- A wait for readiness runs out of time, and callers see that closing the channel failed. -/
theorem failed_close_hides_timeout :
    let e : Endpoint := ⟨.text "h", "443", .bool true⟩
    let s : Surroundings := {
      ready := { failure := some (.raised .timeout "") }
      closeFailures := [some (.raised .runtime "boom")] }
    Stage.firstFailure (plan e [.dial [.block]] .none s {}) =
        some (.readiness, .raised .timeout "") ∧
      FailsBy e [.dial [.block]] .none s (.raised .timeout "") .readiness ∧
      ((connect e [.dial [.block]] .none).perform s {}).1 ≠ .error (.raised .timeout "") ∧
      failureOf ((connect e [.dial [.block]] .none).perform s {}).1 =
        some (.raised .runtime "boom") := by
  intro e s
  have hout : failureOf ((connect e [.dial [.block]] .none).perform s {}).1 =
      some (.raised .runtime "boom") := by rfl
  refine ⟨by rfl, .inr rfl, ?_, hout⟩
  intro h
  rw [h] at hout
  simp at hout

end Client

end SharedChannel
