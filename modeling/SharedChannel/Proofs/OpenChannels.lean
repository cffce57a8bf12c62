import SharedChannel.Proofs.LinearBuild

/-!
# Channels that a failure leaves open

A failed building closes the channel that it opened, unless the failure comes from the wait for
readiness and is no timeout, from putting the interceptors around, or from a stub and is an
interrupt or has no text. This is exact for all runs in which closing itself succeeds.
-/

namespace SharedChannel

/-- Every channel opened on the way from one world to another is closed on it too. -/
def World.LeavesNothingOpen (w v : World) : Prop :=
  ∀ n, w.opened < n → n ≤ v.opened → n ∈ v.closed.drop w.closed.length

/-- Whether a failure in a phase leaves the channel of the run open. -/
def Phase.leavesOpen : Phase → Failure → Bool
  | readiness, f => f.kind != .timeout
  | wrapping, _ => true
  | stub, f => !f.isReportable
  | _, _ => false

lemma Phase.leavesOpen_of_index_le {p : Phase} (h : p.index ≤ opening.index) (f : Failure) :
    p.leavesOpen f = false := by
  cases p <;> simp_all [leavesOpen, index]

lemma Guard.ofClient_of_opening_lt {p : Phase} (h : Phase.opening.index < p.index) (f : Failure) :
    ofClient.closes p f = !p.leavesOpen f := by
  cases p <;> simp_all [ofClient, Phase.leavesOpen, Phase.index, bne]

lemma join_getElem?_eq_none {results : List (Option Failure)} (h : ∀ g ∈ results, g = none)
    (n : Nat) : results[n]?.join = none := by
  cases hn : results[n]? with
  | none => rfl
  | some g => exact h g (List.mem_of_getElem? hn)

namespace Client

/-- A failed building leaves nothing open if and only if the failure that ended the run is not one
of those that building does not answer by closing the channel. Callers see that failure as it is,
unless it is an ordinary one of a stub that has no text. -/
theorem connect_leaves_nothing_open_iff {e : Endpoint} {options : List ClientOption}
    {timeout : Value} {s : Surroundings} {w v : World} {f : Failure}
    (hclose : ∀ g ∈ s.closeFailures, g = none)
    (h : (connect e options timeout).perform s w = (.error f, v)) :
    ∃ p g, Stage.firstFailure (plan e options timeout s w) = some (p, g) ∧
      f = Guard.ofClient.reports p g ∧ (w.LeavesNothingOpen v ↔ p.leavesOpen g = false) := by
  have hrun := connect_follows e options timeout s w
  rw [h, join_getElem?_eq_none hclose] at hrun
  obtain ⟨p, g, hfirst, hf⟩ := hrun.firstFailure_eq_some
  refine ⟨p, g, hfirst, by simpa using hf, ?_⟩
  have hopened := hrun.opened
  have hclosed := hrun.closed
  rw [plan_openings, hfirst] at hopened
  rw [hfirst, closings, isGuarded] at hclosed
  rw [World.LeavesNothingOpen, hclosed, hopened, List.drop_left]
  by_cases hp : Phase.opening.index < p.index
  · have hguard := Guard.ofClient_of_opening_lt hp g
    simp only [Option.any_some, Option.all_some, hguard, hp, Option.isNone_none, Bool.and_true,
      decide_true, if_true]
    cases p.leavesOpen g with
    | true => simpa using ⟨w.opened + 1, by omega, by omega⟩
    | false =>
      refine iff_of_true ?_ rfl
      intro n hlow hhigh
      obtain rfl : n = w.opened + 1 := by omega
      simp
  · refine iff_of_true ?_ (Phase.leavesOpen_of_index_le (Nat.le_of_not_lt hp) g)
    intro n hlow hhigh
    simp only [Option.all_some, hp, decide_false, Bool.false_eq_true, if_false] at hhigh
    omega

/-- A wait for readiness that runs out of time is answered by closing the channel. -/
theorem connect_leaves_nothing_open_after_timeout :
    let e : Endpoint := ⟨.text "h", "443", .bool true⟩
    let s : Surroundings := { ready := { failure := some (.raised .timeout "") } }
    let v := ((connect e [.dial [.block]] .none).perform s {}).2
    (∀ g ∈ s.closeFailures, g = none) ∧
    (connect e [.dial [.block]] .none).perform s {} = (.error (.raised .timeout ""), v) ∧
    World.LeavesNothingOpen {} v ∧ v.opened = 1 ∧ v.closed = [1] := by
  intro e s v
  have hclose : ∀ g ∈ s.closeFailures, g = none := by simp [s]
  have hrun : (connect e [.dial [.block]] .none).perform s {} =
      (.error (.raised .timeout ""), v) := by rfl
  obtain ⟨p, g, hp, -, hiff⟩ := connect_leaves_nothing_open_iff hclose hrun
  have hphase : Stage.firstFailure (plan e [.dial [.block]] .none s {}) =
      some (.readiness, .raised .timeout "") := by rfl
  obtain ⟨rfl, rfl⟩ : .readiness = p ∧ .raised .timeout "" = g := by simpa [hphase] using hp
  exact ⟨hclose, hrun, hiff.mpr rfl, rfl, rfl⟩

/-- A wait for readiness that fails otherwise leaves the channel open. -/
theorem failed_wait_leaves_channel_open :
    let e : Endpoint := ⟨.text "h", "443", .bool true⟩
    let s : Surroundings := { ready := { failure := some (.raised .runtime "boom") } }
    let out := (connect e [.dial [.block]] .none).perform s {}
    (∀ g ∈ s.closeFailures, g = none) ∧ failureOf out.1 = some (.raised .runtime "boom") ∧
      ¬ World.LeavesNothingOpen {} out.2 := by
  intro e s out
  refine ⟨by simp [s], rfl, ?_⟩
  intro h
  have hopened : out.2.opened = 1 := rfl
  have hclosed : out.2.closed = [] := rfl
  simpa [hclosed] using h 1 (by decide) (Nat.le_of_eq hopened.symm)

end Client

end SharedChannel
