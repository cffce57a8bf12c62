import Mathlib.Data.List.Forall2
import SharedChannel.Proofs.Plan

/-!
# Building in order

Building a client goes through its phases in a fixed order, each at most once, and stops at the
first step that fails; behind it there is at most an attempt to close the channel of the run.
`Client.Expected` says what each stage may do, `Stage.Completed` and `Stage.Stopped` how a run ends.
-/

namespace SharedChannel

namespace Phase

/-- The place of a phase in the order. -/
def index : Phase → Nat
  | timing => 0
  | initialization => 1
  | deadline => 2
  | transport => 3
  | credentials => 4
  | composition => 5
  | opening => 6
  | readiness => 7
  | wrapping => 8
  | stub => 9

/-- The phases in order, with one stub for each service. -/
def order : List Phase :=
  [timing, initialization, deadline, transport, credentials, composition, opening, readiness,
    wrapping] ++ Service.all.map fun _ => stub

lemma order_pairwise : order.Pairwise fun p q => p.index ≤ q.index := by
  decide

end Phase

def InOrder (effects : List Effect) : Prop :=
  (effects.filterMap Effect.phase?).Pairwise fun p q => p.index ≤ q.index

lemma Guard.index_of_ofClient {p : Phase} {f : Failure} (h : ofClient.closes p f = true) :
    Phase.opening.index < p.index := by
  cases p <;> simp_all [ofClient, Phase.index]

namespace Stage

variable {l : List Stage}

lemma Tidy.filterMap_phase {x : Stage} (h : x.Tidy) :
    ∀ p ∈ x.effects.filterMap Effect.phase?, p = x.phase := by
  intro p hp
  obtain ⟨e, he, hep⟩ := List.mem_filterMap.mp hp
  rw [h e he] at hep
  exact (Option.some.inj hep).symm

lemma inOrder_flatMap (htidy : ∀ x ∈ l, x.Tidy)
    (hl : (l.map Stage.phase).Pairwise fun p q => p.index ≤ q.index) :
    InOrder (l.flatMap (·.effects)) := by
  rw [InOrder, List.filterMap_flatMap, List.pairwise_flatMap]
  refine ⟨?_, ?_⟩
  · intro x hx
    refine List.pairwise_of_forall_mem_list ?_
    intro p hp q hq
    have hindex : p.index = q.index := by
      rw [(htidy x hx).filterMap_phase p hp, (htidy x hx).filterMap_phase q hq]
    exact Nat.le_of_eq hindex
  · refine (List.pairwise_map.mp hl).imp_of_mem ?_
    intro x y hx hy hxy p hp q hq
    rw [(htidy x hx).filterMap_phase p hp, (htidy y hy).filterMap_phase q hq]
    exact hxy

/-- Of stages with one opening among them, the channel is opened if nothing fails up to there. -/
lemma openings_split {before after : List Stage} {x : Stage}
    (hbefore : ∀ y ∈ before, y.phase ≠ .opening) (hx : x.phase = .opening)
    (hafter : ∀ y ∈ after, y.phase ≠ .opening) :
    openings (before ++ x :: after) = if firstFailure (before ++ [x]) = none then 1 else 0 := by
  cases hb : firstFailure before with
  | some failed =>
    have hbx := firstFailure_append_of_some (m := [x]) hb
    have hopenings : openings (before ++ x :: after) = openings before := by
      rw [openings, openings, reached_append_of_some hb]
    rw [hopenings, openings_eq_zero hbefore, hbx]
    rfl
  | none =>
    have hbx := firstFailure_append_of_none (m := [x]) hb
    rw [hbx, openings, reached_append_of_none hb, List.countP_append,
      List.countP_eq_zero.mpr (by simpa using fun y hy h => absurd h (hbefore y hy)), Nat.zero_add,
      reached]
    cases hf : x.failure with
    | some f => simp [firstFailure, hf]
    | none =>
      have hzero := openings_eq_zero hafter
      rw [openings] at hzero
      simp [firstFailure, hf, hx, hzero]

/-- Nothing fails in the first phases if and only if the first failure, if there is any, is in a
later one. -/
lemma firstFailure_eq_none_iff_all_index {before after : List Stage} {n : Nat}
    (hbefore : ∀ x ∈ before, x.phase.index ≤ n) (hafter : ∀ x ∈ after, n < x.phase.index) :
    firstFailure before = none ↔ (firstFailure (before ++ after)).all (n < ·.1.index) := by
  cases hb : firstFailure before with
  | some failed =>
    obtain ⟨p, f⟩ := failed
    obtain ⟨x, hx, rfl, -⟩ := exists_mem_of_firstFailure hb
    rw [firstFailure_append_of_some hb]
    simpa using hbefore x hx
  | none =>
    rw [firstFailure_append_of_none hb]
    cases ha : firstFailure after with
    | none => simp
    | some failed =>
      obtain ⟨p, f⟩ := failed
      obtain ⟨x, hx, rfl, -⟩ := exists_mem_of_firstFailure ha
      simpa using hafter x hx

lemma inOrder_history (htidy : ∀ x ∈ l, x.Tidy)
    (hl : (l.map Stage.phase).Pairwise fun p q => p.index ≤ q.index) : InOrder (history l) := by
  refine inOrder_flatMap (fun x hx => htidy x (reached_sublist.subset hx)) ?_
  exact hl.sublist (reached_sublist.map Stage.phase)

/-- A run that goes through all stages. -/
def Completed {α : Type} (stages : List Stage) (w : World) (out : Except Failure α × World) :
    Prop :=
  (∃ r, out.1 = .ok r) ∧ (∀ x ∈ stages, x.failure = none) ∧
    out.2.trace = w.trace ++ stages.flatMap (·.effects)

/-- A run that stops at the first stage which fails. No later stage has effects; at most there is an
attempt to close the given channel, if the run has opened it. Without the attempt callers see what
the guard reports of the failure. -/
def Stopped {α : Type} (guard : Guard) (stages : List Stage) (channel : Nat) (w : World)
    (out : Except Failure α × World) : Prop :=
  ∃ done x rest f g closing,
    stages = done ++ x :: rest ∧ (∀ y ∈ done, y.failure = none) ∧ x.failure = some f ∧
    out.1 = .error g ∧
    out.2.trace = w.trace ++ done.flatMap (·.effects) ++ x.effects ++ closing ∧
    (closing = [] ∧ g = guard.reports x.phase f ∨
      closing = [.close channel] ∧ out.2.opened = channel)

end Stage

namespace Follows

variable {α : Type} {guard : Guard} {channel : Nat} {closing : Option Failure} {l : List Stage}
  {w : World} {out : Except Failure α × World}

lemma inOrder (h : Follows guard channel closing l w out) (htidy : ∀ x ∈ l, x.Tidy)
    (hl : (l.map Stage.phase).Pairwise fun p q => p.index ≤ q.index) :
    ∃ effects, out.2.trace = w.trace ++ effects ∧ InOrder effects := by
  refine ⟨_, by rw [h.trace, List.append_assoc], ?_⟩
  have hcleanup : ∀ failed, (cleanup guard channel failed).filterMap Effect.phase? = [] := by
    intro failed
    rw [cleanup]
    split <;> rfl
  rw [InOrder, List.filterMap_append, hcleanup, List.append_nil]
  exact Stage.inOrder_history htidy hl

lemma completed (h : Follows guard channel closing l w out) (hl : Stage.firstFailure l = none) :
    Stage.Completed l w out := by
  have hfailure := h.failure
  have htrace := h.trace
  rw [hl] at hfailure htrace
  refine ⟨?_, Stage.firstFailure_eq_none_iff.mp hl, ?_⟩
  · cases hout : out.1 with
    | ok r => exact ⟨r, rfl⟩
    | error f => simp [hout, verdict] at hfailure
  · rw [htrace, Stage.history, Stage.reached_of_none hl, cleanup]
    exact List.append_nil _

lemma stopped {p : Phase} {f : Failure} (h : Follows guard channel closing l w out)
    (hl : Stage.firstFailure l = some (p, f))
    (hopened : guard.closes p f = true → out.2.opened = channel) :
    Stage.Stopped guard l channel w out := by
  obtain ⟨done, x, rest, rfl, hdone, rfl, hf⟩ := Stage.exists_split_of_firstFailure hl
  have hfailure := h.failure
  have htrace := h.trace
  rw [hl] at hfailure htrace
  rw [Stage.history, Stage.reached_split hdone hf, List.flatMap_append, List.flatMap_singleton,
    ← List.append_assoc] at htrace
  obtain ⟨g, hg⟩ : ∃ g, out.1 = .error g := by
    cases hout : out.1 with
    | ok r => simp [hout, verdict] at hfailure
    | error g => exact ⟨g, rfl⟩
  refine ⟨done, x, rest, f, g, _, rfl, hdone, hf, hg, htrace, ?_⟩
  cases hguard : guard.closes x.phase f with
  | false =>
    rw [hg] at hfailure
    refine .inl ⟨by simp [cleanup, isGuarded, hguard], ?_⟩
    simpa [verdict, hguard] using hfailure
  | true => exact .inr ⟨by simp [cleanup, isGuarded, hguard], hopened hguard⟩

end Follows

namespace Client

/-- What a stage of building may do: run the initializer in effect on the endpoint's origin, make
credentials, open a channel to the endpoint, work on that channel, build a stub. -/
def Expected (e : Endpoint) (options : List ClientOption) (channel : Nat) (x : Stage) : Prop :=
  match x.phase with
  | .timing | .deadline => x.effects = []
  | .initialization =>
    x.effects = [] ∨ ∃ label takes outcome budget,
      ClientOption.lastAuth options = some (.custom label takes outcome) ∧
        x.effects = [.initialization label e.origin budget]
  | .transport => x.effects = [] ∨ x.effects = [.tlsCredentials .none]
  | .credentials =>
    x.effects = [] ∨ ∃ p, DialOption.lastProvider (allDialOptions e options) = some p ∧
      x.effects = [.callCredentials p.name Provider.authorizationKey]
  | .composition =>
    x.effects = [] ∨ x.effects = [.compositeCredentials [Provider.authorizationKey]]
  | .opening =>
    (∃ roots calls arguments compression,
      x.effects = [.secureChannel e.host roots calls arguments compression]) ∨
    ∃ arguments compression, x.effects = [.plainChannel e.host arguments compression]
  | .readiness => x.effects = [] ∨ ∃ budget, x.effects = [.readiness channel, .readyWait budget]
  | .wrapping => x.effects = [] ∨ ∃ labels, x.effects = [.wrap channel labels]
  | .stub =>
    x.effects = [] ∨
      ∃ service ∈ Service.all, x.effects = [.stub channel service.path.toText service.stub]

section Planned

variable (e : Endpoint) (options : List ClientOption) (timeout : Value) (s : Surroundings)
  (w : World)

lemma plan_phases : (plan e options timeout s w).map Stage.phase = Phase.order := by
  simp [plan, Dial.stages, Phase.order, timingStage, transportStage, Function.comp_def]

lemma plan_pairwise : ((plan e options timeout s w).map Stage.phase).Pairwise
    fun p q => p.index ≤ q.index := by
  rw [plan_phases]
  exact Phase.order_pairwise

lemma plan_stubs : (plan e options timeout s w).filter (·.phase == .stub) =
    Service.all.map (Service.stage s.supply (w.opened + 1)) := by
  have hstubs : (Service.all.map (Service.stage s.supply (w.opened + 1))).filter
      (·.phase == .stub) = Service.all.map (Service.stage s.supply (w.opened + 1)) := by
    rw [List.filter_eq_self]
    simp
  rw [plan, List.filter_append, List.filter_append, hstubs]
  simp [Dial.stages, timingStage, transportStage]

lemma plan_tidy : ∀ x ∈ plan e options timeout s w, x.Tidy := by
  intro x hx
  rw [plan, List.mem_append, List.mem_append] at hx
  obtain (hx | hx) | hx := hx
  · simp only [List.mem_cons, List.not_mem_nil, or_false] at hx
    obtain rfl | rfl | rfl | rfl := hx
    · simp [Stage.Tidy, timingStage]
    · exact initializationStage_tidy _ _ _
    · exact deadlineStage_tidy _ _ _
    · exact transportStage_tidy e _
  · exact Dial.stages_tidy _ _ _ _ x hx
  · obtain ⟨service, -, rfl⟩ := List.mem_map.mp hx
    exact stage_tidy s.supply _ service

lemma timingStage_expected (channel : Nat) : Expected e options channel (timingStage timeout) := rfl

lemma initializationStage_expected (budget : Value) (channel : Nat) :
    Expected e options channel
      (initializationStage e.origin budget (ClientOption.lastAuth options)) := by
  cases hi : ClientOption.lastAuth options with
  | none => exact .inl rfl
  | some i =>
    cases i with
    | personal token => exact .inl rfl
    | custom label takes outcome => exact .inr ⟨label, takes, outcome, budget, hi, rfl⟩

lemma deadlineStage_expected (deadline : Option Binary64) (clock : Binary64) (channel : Nat) :
    Expected e options channel
      (deadlineStage deadline clock (ClientOption.lastAuth options)) := by
  cases ClientOption.lastAuth options with
  | none => exact rfl
  | some i => exact rfl

lemma transportStage_expected (channel : Nat) (failure : Option Failure) :
    Expected e options channel (transportStage e failure) := by
  by_cases h : (e.isTls && e.domain.truthy) = true
  · exact .inr (if_pos h)
  · exact .inl (if_neg h)

lemma credentialsStage_expected (channel : Nat) (failure : Option Failure) :
    Expected e options channel
      (Dial.credentialsStage e.host (.ofOptions (allDialOptions e options)) failure) := by
  rw [Expected, Dial.credentialsStage_phase]
  dsimp only
  rw [Dial.credentialsStage, DialOption.ofOptions_callCredentials]
  cases DialOption.lastProvider (allDialOptions e options) with
  | none => exact .inl (by split <;> simp_all)
  | some p =>
    dsimp only
    split
    · next hp =>
      obtain rfl := Option.some.inj hp
      exact .inr ⟨p, rfl, rfl⟩
    · exact .inl rfl

lemma compositionStage_expected (d : DialSettings) (channel : Nat) (failure : Option Failure) :
    Expected e options channel (Dial.compositionStage d failure) := by
  rw [Expected, Dial.compositionStage_phase]
  dsimp only
  rw [Dial.compositionStage]
  dsimp only
  split
  · exact .inr rfl
  · exact .inl rfl

lemma openingStage_expected (channel : Nat) (failure : Option Failure) :
    Expected e options channel
      (Dial.openingStage e.host (.ofOptions (allDialOptions e options)) failure) := by
  rw [Expected, Dial.openingStage_phase]
  dsimp only
  rw [Dial.openingStage]
  dsimp only
  split
  · exact .inl ⟨_, _, _, _, rfl⟩
  · exact .inr ⟨_, _, rfl⟩

lemma readinessStage_expected (d : DialSettings) (ready : Readiness) (budget : Value)
    (channel : Nat) : Expected e options channel (Dial.readinessStage d ready budget channel) := by
  rw [Expected, Dial.readinessStage_phase]
  dsimp only
  rw [Dial.readinessStage]
  split
  · exact .inr ⟨budget, rfl⟩
  · exact .inl rfl

lemma wrappingStage_expected (d : DialSettings) (failure : Option Failure) (channel : Nat) :
    Expected e options channel (Dial.wrappingStage d failure channel) := by
  rw [Expected, Dial.wrappingStage_phase]
  simp only [Dial.wrappingStage]
  split
  · exact .inl rfl
  · exact .inr ⟨_, rfl⟩

lemma stage_effects (supply : Supply) (number : Nat) (service : Service) :
    (service.stage supply number).effects = [] ∨
      (service.stage supply number).effects =
        [.stub number service.path.toText service.stub] := by
  rw [Service.stage]
  dsimp only
  split
  · exact .inr rfl
  · exact .inl rfl

lemma plan_expected :
    ∀ x ∈ plan e options timeout s w, Expected e options (w.opened + 1) x := by
  intro x hx
  rw [plan, List.mem_append, List.mem_append] at hx
  obtain (hx | hx) | hx := hx
  · simp only [List.mem_cons, List.not_mem_nil, or_false] at hx
    obtain rfl | rfl | rfl | rfl := hx
    · exact timingStage_expected ..
    · exact initializationStage_expected ..
    · exact deadlineStage_expected ..
    · exact transportStage_expected ..
  · simp only [Dial.stages, List.mem_cons, List.not_mem_nil, or_false] at hx
    obtain rfl | rfl | rfl | rfl | rfl := hx
    · exact credentialsStage_expected ..
    · exact compositionStage_expected ..
    · exact openingStage_expected ..
    · exact readinessStage_expected ..
    · exact wrappingStage_expected ..
  · obtain ⟨service, hservice, rfl⟩ := List.mem_map.mp hx
    rw [Expected, stage_phase]
    exact (stage_effects s.supply _ service).imp_right fun h => ⟨service, hservice, h⟩

/-- The channel is opened if building comes past the opening. -/
lemma plan_openings :
    Stage.openings (plan e options timeout s w) =
      if (Stage.firstFailure (plan e options timeout s w)).all (Phase.opening.index < ·.1.index)
      then 1 else 0 := by
  let i := ClientOption.lastAuth options
  let deadline := deadlineOf timeout w.clock
  let d := DialSettings.ofOptions (allDialOptions e options)
  let budget := remaining deadline (clockAfter w.clock i)
  let before := [timingStage timeout, initializationStage e.origin (remaining deadline w.clock) i,
    deadlineStage deadline w.clock i, transportStage e s.tlsFailure,
    Dial.credentialsStage e.host d s.callCredentialsFailure,
    Dial.compositionStage d s.compositionFailure]
  let after := [Dial.readinessStage d s.ready budget (w.opened + 1),
    Dial.wrappingStage d s.wrapFailure (w.opened + 1)] ++
      Service.all.map (Service.stage s.supply (w.opened + 1))
  have hplan : plan e options timeout s w =
      before ++ Dial.openingStage e.host d s.channelFailure :: after := rfl
  have hbefore : ∀ x ∈ before, x.phase.index < Phase.opening.index := by
    simp [before, timingStage, transportStage, Phase.index]
  have hafter : ∀ x ∈ after, Phase.opening.index < x.phase.index := by
    intro x hx
    rw [List.mem_append] at hx
    obtain hx | hx := hx
    · simp only [List.mem_cons, List.not_mem_nil, or_false] at hx
      obtain rfl | rfl := hx <;> simp [Phase.index]
    · obtain ⟨service, -, rfl⟩ := List.mem_map.mp hx
      simp [Phase.index]
  have hne : ∀ x : Stage, x.phase.index ≠ Phase.opening.index → x.phase ≠ .opening :=
    fun x hx h => hx (h ▸ rfl)
  rw [hplan, Stage.openings_split (fun x hx => hne x (Nat.ne_of_lt (hbefore x hx))) rfl
    (fun x hx => hne x (Nat.ne_of_gt (hafter x hx))),
    ← List.singleton_append (l := after), ← List.append_assoc]
  refine if_congr (Stage.firstFailure_eq_none_iff_all_index ?_ hafter) rfl rfl
  intro x hx
  rw [List.mem_append, List.mem_singleton] at hx
  obtain hx | rfl := hx
  · exact Nat.le_of_lt (hbefore x hx)
  · exact Nat.le_refl _

/-- What building adds to the history belongs to stages of the plan, but for an attempt to close the
channel. -/
lemma connect_effects : ∃ effects,
    ((connect e options timeout).perform s w).2.trace = w.trace ++ effects ∧
      ∀ effect ∈ effects, effect = .close (w.opened + 1) ∨
        ∃ x ∈ plan e options timeout s w, effect ∈ x.effects ∧ effect.phase? = some x.phase := by
  have hrun := connect_follows e options timeout s w
  refine ⟨_, by rw [hrun.trace, List.append_assoc], fun effect heffect => ?_⟩
  obtain hhistory | hcleanup := List.mem_append.mp heffect
  · obtain ⟨x, hreached, hmem⟩ := List.mem_flatMap.mp hhistory
    have hx : x ∈ plan e options timeout s w := Stage.reached_sublist.subset hreached
    exact .inr ⟨x, hx, hmem, plan_tidy e options timeout s w x hx effect hmem⟩
  · rw [cleanup] at hcleanup
    split at hcleanup
    · exact .inl (List.mem_singleton.mp hcleanup)
    · cases hcleanup

end Planned

/-- Building a client goes through its phases in order, each stage with effects of its phase alone,
the stubs in the order of the services. It goes through all stages, or it stops at the first one
that fails. -/
theorem connect_in_order (e : Endpoint) (options : List ClientOption) (timeout : Value)
    (s : Surroundings) (w : World) :
    let stages := plan e options timeout s w
    let out := (connect e options timeout).perform s w
    stages.map Stage.phase = Phase.order ∧
    (∀ x ∈ stages, x.Tidy ∧ Expected e options (w.opened + 1) x) ∧
    List.Forall₂
      (fun service x => x.effects = [] ∨
        x.effects = [.stub (w.opened + 1) service.path.toText service.stub])
      Service.all (stages.filter (·.phase == .stub)) ∧
    (∃ effects, out.2.trace = w.trace ++ effects ∧ InOrder effects) ∧
    (Stage.Completed stages w out ∨ Stage.Stopped .ofClient stages (w.opened + 1) w out) := by
  dsimp only
  have hrun := connect_follows e options timeout s w
  have htidy := plan_tidy e options timeout s w
  refine ⟨plan_phases .., fun x hx => ⟨htidy x hx, plan_expected _ _ _ _ _ x hx⟩, ?_, ?_, ?_⟩
  · rw [plan_stubs, List.forall₂_map_right_iff]
    exact List.forall₂_same.mpr fun service _ => stage_effects s.supply _ service
  · exact hrun.inOrder htidy (plan_pairwise ..)
  · cases hfirst : Stage.firstFailure (plan e options timeout s w) with
    | none => exact .inl (hrun.completed hfirst)
    | some failed =>
      obtain ⟨p, f⟩ := failed
      refine .inr (hrun.stopped hfirst ?_)
      intro hguard
      have hp : Phase.opening.index < p.index := Guard.index_of_ofClient hguard
      rw [hrun.opened, plan_openings, hfirst]
      simp [hp]

end Client

end SharedChannel
