import SharedChannel.Proofs.ExactSums
import SharedChannel.Proofs.LinearBuild

/-!
# One deadline for two waits

The initializer and the wait for readiness share one deadline, the clock at the start and the
timeout together. Each is told what is left of it, and where the initializer uses it up nothing
follows. In exact arithmetic the two waits together last no longer than the timeout.
-/

namespace SharedChannel

def Effect.readyBudget? : Effect → Option Value
  | readyWait budget => some budget
  | _ => none

/-- A timeout that gives a deadline can be written when the deadline is missed: an integer too long
for that is no floating-point number. -/
theorem Value.isOverlong_of_duration {v : Value} {d : Binary64} (h : v.duration? = .ok (some d)) :
    v.isOverlong = false := by
  cases v with
  | int n =>
    by_contra hlong
    rw [Bool.not_eq_false, isOverlong, decide_eq_true_eq] at hlong
    unfold Text.numeralBound at hlong
    have hpower : ∀ {k m : ℕ}, k ≤ m → 2 ^ k ≤ Nat.pow 10 m := fun {k m} hk =>
      (Nat.pow_le_pow_left (by decide) k).trans (Nat.pow_le_pow_right (by decide) hk)
    have hlarge : ∀ k, k ≤ Text.numeralLimit → 2 ^ k ≤ n.natAbs :=
      fun k hk => (hpower hk).trans hlong
    rw [duration?, Binary64.ofInt,
      Binary64.roundFraction_one_of_large _ (hlarge 1024 (by decide))] at h
    cases h
  | list items => cases h
  | _ => rfl

/-- The number of seconds that a value means, if it is a finite one. -/
def Value.seconds? : Value → Option ℚ
  | .float x => x.value?
  | _ => Option.none

namespace Stage

variable {l : List Stage}

lemma readyBudget_effects {x : Stage} (hx : x.Tidy) (hp : x.phase ≠ .readiness) :
    x.effects.filterMap Effect.readyBudget? = [] := by
  rw [List.filterMap_eq_nil_iff]
  intro effect heffect
  have hphase := hx effect heffect
  cases effect with
  | readyWait budget => exact absurd (Option.some.inj hphase).symm hp
  | _ => rfl

lemma readyBudget_history (htidy : ∀ x ∈ l, x.Tidy) (hl : ∀ x ∈ l, x.phase ≠ .readiness) :
    (history l).filterMap Effect.readyBudget? = [] := by
  rw [history, List.filterMap_flatMap, List.flatMap_eq_nil_iff]
  intro x hx
  have hmem := reached_sublist.subset hx
  exact readyBudget_effects (htidy x hmem) (hl x hmem)

/-- Of stages with one wait for readiness among them, the wait is reached if nothing fails before.
-/
lemma readyBudget_history_split {before after : List Stage} {x : Stage}
    (htidy : ∀ y ∈ before ++ after, y.Tidy)
    (hphase : ∀ y ∈ before ++ after, y.phase ≠ .readiness) :
    (history (before ++ x :: after)).filterMap Effect.readyBudget? =
      if firstFailure before = none then x.effects.filterMap Effect.readyBudget? else [] := by
  rw [List.forall_mem_append] at htidy hphase
  have hbefore := readyBudget_history htidy.1 hphase.1
  have hafter := readyBudget_history htidy.2 hphase.2
  by_cases hnone : firstFailure before = none
  · rw [history, reached_of_none hnone] at hbefore
    rw [if_pos hnone, history, reached_append_of_none hnone, List.flatMap_append,
      List.filterMap_append, hbefore, List.nil_append, reached]
    split
    · rw [List.flatMap_singleton]
    · rw [List.flatMap_cons, List.filterMap_append, ← history, hafter, List.append_nil]
  · obtain ⟨⟨p, f⟩, hsome⟩ := Option.ne_none_iff_exists'.mp hnone
    rw [if_neg hnone, history, reached_append_of_some hsome, ← history, hbefore]

end Stage

namespace Initializer

/-- The world in which an initializer that was given the budget returns. -/
def returned (i : Initializer) (origin : String) (budget : Value) (log : List Logging.Record)
    (w : World) : World :=
  { w with
    trace := w.trace ++ i.effects origin budget
    clock := i.clockAfter w.clock
    log }

end Initializer

namespace Client

section Waiting

variable {s : Surroundings} {w : World}

lemma laterStages_tidy (e : Endpoint) (options : List ClientOption) (budget : Value)
    (number : Nat) : ∀ x ∈ laterStages e options budget s number, x.Tidy := by
  intro x hx
  rw [laterStages, List.mem_append, List.mem_cons] at hx
  obtain (rfl | hx) | hx := hx
  · exact transportStage_tidy e _
  · exact Dial.stages_tidy _ _ _ _ x hx
  · obtain ⟨service, -, rfl⟩ := List.mem_map.mp hx
    exact stage_tidy s.supply number service

/-- The wait for readiness is reached if the options ask for it and the channel is opened. -/
lemma readyBudget_laterStages (e : Endpoint) (options : List ClientOption) (budget : Value)
    (number : Nat) :
    (Stage.history (laterStages e options budget s number)).filterMap Effect.readyBudget? =
      if (DialSettings.ofOptions (allDialOptions e options)).block = true ∧
          Stage.openings (laterStages e options budget s number) = 1
      then [budget] else [] := by
  let d := DialSettings.ofOptions (allDialOptions e options)
  let before := [transportStage e s.tlsFailure,
    Dial.credentialsStage e.host d s.callCredentialsFailure,
    Dial.compositionStage d s.compositionFailure]
  let opening := Dial.openingStage e.host d s.channelFailure
  let waiting := Dial.readinessStage d s.ready budget number
  let after := Dial.wrappingStage d s.wrapFailure number ::
    Service.all.map (Service.stage s.supply number)
  have hstages : laterStages e options budget s number =
      (before ++ [opening]) ++ waiting :: after := rfl
  have htidy : ∀ y ∈ (before ++ [opening]) ++ after, y.Tidy := by
    intro y hy
    refine laterStages_tidy (s := s) e options budget number y ?_
    rw [hstages]
    rw [List.mem_append] at hy ⊢
    exact hy.imp_right (List.mem_cons_of_mem waiting)
  have hphase : ∀ y ∈ (before ++ [opening]) ++ after, y.phase ≠ .readiness := by
    intro y hy
    simp only [before, opening, after, List.mem_append, List.mem_cons, List.not_mem_nil, or_false,
      List.mem_map] at hy
    obtain ((rfl | rfl | rfl) | rfl) | rfl | ⟨service, -, rfl⟩ := hy <;> simp [transportStage]
  have hopening : ∀ y ∈ waiting :: after, y.phase ≠ .opening := by
    intro y hy
    simp only [waiting, after, List.mem_cons, List.mem_map] at hy
    obtain rfl | rfl | ⟨service, -, rfl⟩ := hy <;> simp
  have hbefore : ∀ y ∈ before, y.phase ≠ .opening := by
    simp [before, transportStage]
  have hwait : waiting.effects.filterMap Effect.readyBudget? =
      if d.block = true then [budget] else [] := by
    simp only [waiting, Dial.readinessStage]
    split <;> rfl
  have hopenings : Stage.openings (laterStages e options budget s number) =
      if Stage.firstFailure (before ++ [opening]) = none then 1 else 0 := by
    rw [hstages, List.append_assoc]
    exact Stage.openings_split hbefore rfl hopening
  rw [hopenings, hstages, Stage.readyBudget_history_split htidy hphase, hwait]
  by_cases hnone : Stage.firstFailure (before ++ [opening]) = none
  · simp [hnone, d]
  · simp [hnone]

/-- A blocking dial waits for the budget it is given. -/
lemma readyBudget_of_follows {e : Endpoint} {options : List ClientOption} {budget : Value}
    {closing : Option Failure} {out : Except Failure Client × World}
    (h : Follows .ofClient (w.opened + 1) closing
      (laterStages e options budget s (w.opened + 1)) w out) :
    (out.2.trace.drop w.trace.length).filterMap Effect.readyBudget? =
      if (DialSettings.ofOptions (allDialOptions e options)).block = true ∧
          out.2.opened = w.opened + 1
      then [budget] else [] := by
  have hcleanup : ∀ failed,
      (cleanup .ofClient (w.opened + 1) failed).filterMap Effect.readyBudget? = [] := by
    intro failed
    rw [cleanup]
    split <;> rfl
  have hopened : out.2.opened = w.opened + 1 ↔
      Stage.openings (laterStages e options budget s (w.opened + 1)) = 1 := by
    rw [h.opened]
    omega
  rw [h.trace, List.append_assoc, List.drop_left, List.filterMap_append, hcleanup,
    List.append_nil, readyBudget_laterStages]
  exact if_congr (and_congr_right fun _ => hopened.symm) rfl rfl

lemma readyBudget_proceed (e : Endpoint) (options : List ClientOption)
    (deadline : Option Binary64) (s : Surroundings) (w : World) :
    let out := (proceed e options deadline).perform s w
    (out.2.trace.drop w.trace.length).filterMap Effect.readyBudget? =
      if (DialSettings.ofOptions (allDialOptions e options)).block = true ∧
          out.2.opened = w.opened + 1
      then [remaining deadline w.clock] else [] :=
  readyBudget_of_follows (proceed_follows e options deadline rfl rfl)

end Waiting

/-- Readings of the clock in the course of building: at the start, when the initializer is called,
when it has returned, and at the dial. -/
structure Course where
  start : Binary64
  timeout : Binary64
  called : Binary64
  returned : Binary64
  dialed : Binary64

namespace Course

def deadline (c : Course) : Binary64 := c.start.add c.timeout

/-- The readings mean these moments, one after the other, and the deadline and what is left of it
are computed exactly. -/
structure Exact (c : Course) (start timeout called returned dialed : ℚ) : Prop where
  duration_eq : c.timeout.value? = some timeout
  returned_eq : c.returned.value? = some returned
  start_le : start ≤ called
  called_le : called ≤ returned
  returned_le : returned ≤ dialed
  deadline_eq : c.deadline.value? = some (start + timeout)
  initialBudget : (remaining (some c.deadline) c.called).seconds? =
    some (max 0 (start + timeout - called))
  dialBudget : (remaining (some c.deadline) c.dialed).seconds? =
    some (max 0 (start + timeout - dialed))

variable {c : Course}

/-- Whole seconds below `2 ^ 53` are exact. -/
lemma exact_of_int {start timeout called returned dialed : ℤ}
    (hstart : c.start.value? = some (start : ℚ)) (htimeout : c.timeout.value? = some (timeout : ℚ))
    (hcalled : c.called.value? = some (called : ℚ))
    (hreturned : c.returned.value? = some (returned : ℚ))
    (hdialed : c.dialed.value? = some (dialed : ℚ)) (h₁ : start ≤ called) (h₂ : called ≤ returned)
    (h₃ : returned ≤ dialed) (hsmall : |timeout| < 2 ^ 53)
    (hdeadline : |start + timeout| < 2 ^ 53) :
    c.Exact start timeout called returned dialed := by
  have hlimit : (Binary64.mantissaLimit : ℤ) = 2 ^ 53 := by norm_num [Binary64.mantissaLimit]
  have hsum : c.deadline.value? = some ((start + timeout : ℤ) : ℚ) := by
    rw [deadline, Binary64.value_add_of_int hstart htimeout (by rw [hlimit]; exact hdeadline)]
    push_cast
    rfl
  have hleft : ∀ {now : Binary64} {k : ℤ}, now.value? = some (k : ℚ) → start ≤ k →
      (remaining (some c.deadline) now).seconds? = some (max 0 (start + timeout - k : ℚ)) := by
    intro now k hnow hk
    have hdiff : start + timeout - k < Binary64.mantissaLimit := by
      rw [hlimit]
      have := (abs_lt.mp hsmall).2
      omega
    have hbudget := Binary64.value_positivePart_sub_of_int hsum hnow hdiff
    rw [remaining, Value.seconds?, hbudget]
    push_cast
    rfl
  refine ⟨htimeout, hreturned, by exact_mod_cast h₁, by exact_mod_cast h₂, by exact_mod_cast h₃,
    ?_, hleft hcalled h₁, hleft hdialed (h₁.trans (h₂.trans h₃))⟩
  rw [hsum]
  push_cast
  rfl

variable {start timeout called returned dialed : ℚ}

/-- What is left at the dial, and the time that the initializer took before it. -/
lemma Exact.bounds (h : c.Exact start timeout called returned dialed)
    (hcheck : c.returned.atLeast c.deadline = false ∨ returned = called) :
    max 0 (start + timeout - dialed) ≤ max 0 (start + timeout - called) ∧
      (returned - called) + max 0 (start + timeout - dialed) ≤ max 0 timeout := by
  have hstart := h.start_le
  have hcalled := h.called_le
  have hreturned := h.returned_le
  refine ⟨max_le_max le_rfl (by linarith), ?_⟩
  by_cases hlate : start + timeout ≤ dialed
  · rw [max_eq_left (by linarith), add_zero]
    obtain hopen | hequal := hcheck
    · -- the deadline had not passed when the initializer returned
      have hbefore : ¬ start + timeout ≤ returned := by
        rw [← Binary64.atLeast_iff h.returned_eq h.deadline_eq, hopen]
        simp
      exact le_max_of_le_right (by linarith)
    · rw [hequal, sub_self]
      exact le_max_left _ _
  · rw [max_eq_right (by linarith)]
    exact le_max_of_le_right (by linarith)

end Course

/-- Where the time is up when the initializer returns, its token source is not used. -/
lemma perform_obtainSource_ofOptions (e : Endpoint) (options : List ClientOption) (timeout : Value)
    (s : Surroundings) (deadline : Option Binary64) (w : World) :
    ∃ log, (obtainSource e (.ofOptions options) timeout deadline).perform s w =
      match ClientOption.lastAuth options with
      | none => (.ok none, w)
      | some i =>
        let v := i.returned e.origin (remaining deadline w.clock) log w
        match i.outcome with
        | .error f => (.error f, v)
        | .ok source =>
          if deadline.any v.clock.atLeast then (.error .initializationTimeout, v)
          else (.ok source, v) := by
  obtain ⟨log, hrun⟩ :=
    perform_obtainSource (s := s) (w := w) e (.ofOptions options) timeout deadline
  refine ⟨log, hrun.trans ?_⟩
  rw [ClientOption.ofOptions_initializer]
  cases ClientOption.lastAuth options with
  | none => rfl
  | some i =>
    dsimp only
    cases i.outcome with
    | error f => rfl
    | ok source =>
      dsimp only
      by_cases hlate : deadline.any (i.clockAfter w.clock).atLeast = true
      · rw [if_pos hlate]
        exact (if_pos hlate).symm
      · rw [if_neg hlate]
        exact (if_neg hlate).symm

/-- There is one deadline. The initializer is told what is left of it when it is called; if it
returns a token source past the deadline the run ends there, otherwise building goes on; and a
blocking dial waits for what is left of the deadline then. Each step keeps the deadline whatever the
clock shows when it begins. Without a timeout nothing is limited. As far as the clock's arithmetic
is exact, as it is for whole seconds, the dial is left no more than the initializer, and the two
together last no longer than the timeout. -/
theorem connect_keeps_one_deadline (e : Endpoint) (options : List ClientOption) (timeout : Value)
    (s : Surroundings) :
    (∀ w, ∃ log, (connect e options timeout).perform s w =
      match timeout.duration? with
      | .error f => (.error f, w)
      | .ok duration =>
        let deadline := duration.map w.clock.add
        match ClientOption.lastAuth options with
        | none => (proceed e options deadline).perform s w
        | some i =>
          let v := i.returned e.origin (remaining deadline w.clock) log w
          match i.outcome with
          | .error f => (.error f, v)
          | .ok _ =>
            if deadline.any v.clock.atLeast then (.error .initializationTimeout, v)
            else (proceed e options deadline).perform s v) ∧
    (∀ deadline w, ∃ log, (obtainSource e (.ofOptions options) timeout deadline).perform s w =
      match ClientOption.lastAuth options with
      | none => (.ok none, w)
      | some i =>
        let v := i.returned e.origin (remaining deadline w.clock) log w
        match i.outcome with
        | .error f => (.error f, v)
        | .ok source =>
          if deadline.any v.clock.atLeast then (.error .initializationTimeout, v)
          else (.ok source, v)) ∧
    (∀ deadline w, let out := (proceed e options deadline).perform s w
      (out.2.trace.drop w.trace.length).filterMap Effect.readyBudget? =
        if (DialSettings.ofOptions (allDialOptions e options)).block = true ∧
            out.2.opened = w.opened + 1
        then [remaining deadline w.clock] else []) ∧
    (∀ now, remaining none now = .none) ∧
    (∀ (c : Course) start duration called returned dialed,
      c.Exact start duration called returned dialed →
      c.returned.atLeast c.deadline = false ∨ returned = called →
      ∃ initial left, (remaining (some c.deadline) c.called).seconds? = some initial ∧
        (remaining (some c.deadline) c.dialed).seconds? = some left ∧
        left ≤ initial ∧ (returned - called) + left ≤ max 0 duration) ∧
    (∀ (c : Course) (start duration called returned dialed : ℤ),
      c.start.value? = some (start : ℚ) → c.timeout.value? = some (duration : ℚ) →
      c.called.value? = some (called : ℚ) → c.returned.value? = some (returned : ℚ) →
      c.dialed.value? = some (dialed : ℚ) → start ≤ called → called ≤ returned →
      returned ≤ dialed → |duration| < 2 ^ 53 → |start + duration| < 2 ^ 53 →
      c.Exact start duration called returned dialed) := by
  have hobtain := perform_obtainSource_ofOptions e options timeout s
  have hready := fun deadline w => readyBudget_proceed e options deadline s w
  refine ⟨?_, hobtain, hready, fun _ => rfl, ?_, ?_⟩
  · intro w
    cases hd : timeout.duration? with
    | error f => exact ⟨w.log, by rw [perform_connect_eq, hd]⟩
    | ok duration =>
      obtain ⟨log, hrun⟩ := hobtain (duration.map w.clock.add) w
      refine ⟨log, ?_⟩
      rw [perform_connect_eq, hd]
      dsimp only
      cases hi : ClientOption.lastAuth options with
      | none =>
        rw [hi] at hrun
        exact Action.perform_bind_of_ok hrun
      | some j =>
        rw [hi] at hrun
        dsimp only at hrun ⊢
        cases ho : j.outcome with
        | error f =>
          rw [ho] at hrun
          exact Action.perform_bind_of_error hrun
        | ok source =>
          rw [ho] at hrun
          dsimp only at hrun ⊢
          split
          case isTrue hlate => exact Action.perform_bind_of_error (hrun.trans (if_pos hlate))
          case isFalse hopen => exact Action.perform_bind_of_ok (hrun.trans (if_neg hopen))
  · intro c start duration called returned dialed hexact hcheck
    obtain ⟨hle, hsum⟩ := hexact.bounds hcheck
    exact ⟨_, _, hexact.initialBudget, hexact.dialBudget, hle, hsum⟩
  · intro c start duration called returned dialed
    exact Course.exact_of_int

/-- Five seconds, of which an initializer takes one: the dial is left four. -/
theorem four_of_five_seconds_are_left :
    let e : Endpoint := ⟨.text "h", "443", .bool true⟩
    let options : List ClientOption :=
      [.auth (some (.custom "login" (.int 1) (.ok none))), .dial [.block]]
    let c : Course := ⟨.ofInt 1000, .ofInt 5, .ofInt 1000, .ofInt 1001, .ofInt 1001⟩
    ((connect e options (.int 5)).perform {} {}).2.trace.take 1 =
        [.initialization "login" "https://h" (.float (.ofInt 5))] ∧
      ((connect e options (.int 5)).perform {} {}).2.trace.filterMap Effect.readyBudget? =
        [.float (.ofInt 4)] ∧
      c.Exact (1000 : ℤ) (5 : ℤ) (1000 : ℤ) (1001 : ℤ) (1001 : ℤ) ∧
      c.returned.atLeast c.deadline = false ∧
      ∃ initial left : ℚ, (remaining c.deadline c.called).seconds? = some initial ∧
        (remaining c.deadline c.dialed).seconds? = some left ∧
        left ≤ initial ∧ ((1001 : ℤ) - (1000 : ℤ) : ℚ) + left ≤ max 0 (5 : ℤ) := by
  intro e options c
  obtain ⟨-, -, -, -, hbounds, hexact⟩ := connect_keeps_one_deadline e options (.int 5) {}
  have hreadings : c.Exact (1000 : ℤ) (5 : ℤ) (1000 : ℤ) (1001 : ℤ) (1001 : ℤ) :=
    hexact c 1000 5 1000 1001 1001 (by decide +kernel) (by decide +kernel) (by decide +kernel)
      (by decide +kernel) (by decide +kernel) (by decide) (by decide) (by decide) (by decide)
      (by decide)
  have hopen : c.returned.atLeast c.deadline = false := by decide +kernel
  have hbudgets := hbounds c _ _ _ _ _ hreadings (.inl hopen)
  exact ⟨by decide +kernel, by decide +kernel, hreadings, hopen, hbudgets⟩

end Client

end SharedChannel
