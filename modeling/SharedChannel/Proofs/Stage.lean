import SharedChannel.Proofs.Outcome

/-!
# Runs in stages

A linear run is a list of stages, each with its effects and the failure that ends it, if one does.
The run has the effects of the stages up to the first failure; a failure that is guarded leads to
one attempt to close the channel, whose own failure takes its place, and one that the guard hides is
not reported as it is. `Follows` says that an outcome is that of such a run, and `Follows.bind` puts
runs one behind the other.
-/

namespace SharedChannel

/-- The steps in which a client is built, in order. -/
inductive Phase where
  | timing
  | initialization
  | deadline
  | transport
  | credentials
  | composition
  | opening
  | readiness
  | wrapping
  | stub
deriving DecidableEq, Repr

/-- The step of building that an effect belongs to. Attempts to close belong to none, nor does what
happens in calls. -/
def Effect.phase? : Effect → Option Phase
  | initialization .. => some .initialization
  | tlsCredentials _ => some .transport
  | callCredentials .. => some .credentials
  | compositeCredentials _ => some .composition
  | secureChannel .. | plainChannel .. => some .opening
  | readiness _ | readyWait _ => some .readiness
  | wrap .. => some .wrapping
  | stub .. => some .stub
  | close _ | ask _ | pluginFailure _ | intercept .. | call .. => none

/-- What becomes of failures: which of them lead to an attempt to close the channel, and what is
reported for each. -/
structure Guard where
  closes : Phase → Failure → Bool
  reports : Phase → Failure → Failure

/-- Failures are reported as they are, and nothing is closed for them. -/
def Guard.never : Guard where
  closes _ _ := false
  reports _ f := f

structure Stage where
  phase : Phase
  effects : List Effect := []
  failure : Option Failure := none
deriving DecidableEq, Repr

namespace Stage

/-- The stages up to the first that fails, that one included. -/
def reached : List Stage → List Stage
  | [] => []
  | x :: rest => if x.failure.isSome then [x] else x :: reached rest

def firstFailure (stages : List Stage) : Option (Phase × Failure) :=
  stages.findSome? fun x => x.failure.map (x.phase, ·)

def history (stages : List Stage) : List Effect := (reached stages).flatMap (·.effects)

def openings (stages : List Stage) : Nat :=
  (reached stages).countP fun x => x.phase == .opening && x.failure.isNone

/-- Each effect belongs to the phase of its stage. -/
def Tidy (x : Stage) : Prop := ∀ e ∈ x.effects, e.phase? = some x.phase

variable {l m : List Stage} {p : Phase} {f : Failure}

lemma firstFailure_append_of_none (h : firstFailure l = none) :
    firstFailure (l ++ m) = firstFailure m := by
  rw [firstFailure, List.findSome?_append, ← firstFailure, h]
  rfl

lemma firstFailure_append_of_some (h : firstFailure l = some (p, f)) :
    firstFailure (l ++ m) = some (p, f) := by
  rw [firstFailure, List.findSome?_append, ← firstFailure, h]
  rfl

lemma firstFailure_eq_none_iff : firstFailure l = none ↔ ∀ x ∈ l, x.failure = none := by
  simp [firstFailure]

lemma firstFailure_cons_of_none {x : Stage} (h : x.failure = none) :
    firstFailure (x :: l) = firstFailure l := by
  simp [firstFailure, h]

lemma firstFailure_cons_of_some {x : Stage} (h : x.failure = some f) :
    firstFailure (x :: l) = some (x.phase, f) := by
  simp [firstFailure, h]

/-- The first failure splits the stages into those done, the one that fails and those left. -/
lemma exists_split_of_firstFailure (h : firstFailure l = some (p, f)) :
    ∃ done x rest, l = done ++ x :: rest ∧ (∀ y ∈ done, y.failure = none) ∧ x.phase = p ∧
      x.failure = some f := by
  induction l with
  | nil => simp [firstFailure] at h
  | cons x rest ih =>
    cases hx : x.failure with
    | some g =>
      rw [firstFailure_cons_of_some hx] at h
      obtain ⟨rfl, rfl⟩ : x.phase = p ∧ g = f := by simpa using h
      exact ⟨[], x, rest, rfl, by simp, rfl, hx⟩
    | none =>
      rw [firstFailure_cons_of_none hx] at h
      obtain ⟨done, y, left, rfl, hdone, hp, hf⟩ := ih h
      exact ⟨x :: done, y, left, rfl, by simpa [hx] using hdone, hp, hf⟩

lemma exists_mem_of_firstFailure (h : firstFailure l = some (p, f)) :
    ∃ x ∈ l, x.phase = p ∧ x.failure = some f := by
  obtain ⟨done, x, rest, rfl, -, hp, hf⟩ := exists_split_of_firstFailure h
  exact ⟨x, by simp, hp, hf⟩

lemma reached_append_of_none (h : firstFailure l = none) : reached (l ++ m) = l ++ reached m := by
  induction l with
  | nil => rfl
  | cons x rest ih =>
    obtain ⟨hx, hrest⟩ := List.forall_mem_cons.mp (firstFailure_eq_none_iff.mp h)
    rw [List.cons_append, reached, hx, ih (firstFailure_eq_none_iff.mpr hrest)]
    rfl

lemma reached_of_none (h : firstFailure l = none) : reached l = l := by
  simpa [reached] using reached_append_of_none (m := []) h

lemma reached_append_of_some (h : firstFailure l = some (p, f)) :
    reached (l ++ m) = reached l := by
  obtain ⟨done, x, rest, rfl, hdone, -, hf⟩ := exists_split_of_firstFailure h
  have hnone := firstFailure_eq_none_iff.mpr hdone
  rw [List.append_assoc, reached_append_of_none hnone, reached_append_of_none hnone]
  simp [reached, hf]

lemma reached_split {done rest : List Stage} {x : Stage} (hdone : ∀ y ∈ done, y.failure = none)
    (hx : x.failure = some f) : reached (done ++ x :: rest) = done ++ [x] := by
  rw [reached_append_of_none (firstFailure_eq_none_iff.mpr hdone)]
  simp [reached, hx]

lemma reached_sublist : (reached l).Sublist l := by
  induction l with
  | nil => exact List.Sublist.slnil
  | cons x rest ih =>
    rw [reached]
    split
    · exact (List.nil_sublist rest).cons_cons x
    · exact ih.cons_cons x

lemma openings_eq_zero (h : ∀ x ∈ l, x.phase ≠ .opening) : openings l = 0 := by
  rw [openings, List.countP_eq_zero]
  intro x hx
  simp [h x (reached_sublist.subset hx)]

lemma isClose_eq_false_of_phase {e : Effect} (h : e.phase? = some p) : e.isClose = false := by
  cases e <;> simp [Effect.isClose, Effect.phase?] at h ⊢

lemma countP_isClose_effects {x : Stage} (h : x.Tidy) : x.effects.countP Effect.isClose = 0 := by
  rw [List.countP_eq_zero]
  intro e he
  simp [isClose_eq_false_of_phase (h e he)]

lemma countP_isClose_history (h : ∀ x ∈ l, x.Tidy) : (history l).countP Effect.isClose = 0 := by
  rw [List.countP_eq_zero]
  intro e he
  obtain ⟨x, hx, hex⟩ := List.mem_flatMap.mp he
  simp [isClose_eq_false_of_phase (h x (reached_sublist.subset hx) e hex)]

end Stage

section Run

variable (guard : Guard) (channel : Nat) (closing : Option Failure)

/-- Whether a failure leads to an attempt to close the channel. -/
def isGuarded (failed : Option (Phase × Failure)) : Bool :=
  failed.any fun x => guard.closes x.1 x.2

/-- The attempt to close the channel, if the failure leads to one. -/
def cleanup (failed : Option (Phase × Failure)) : List Effect :=
  if isGuarded guard failed then [.close channel] else []

/-- What callers see of a failure: what the guard reports, unless the channel is to be closed and
that fails. -/
def verdict (failed : Option (Phase × Failure)) : Option Failure :=
  failed.map fun x =>
    if guard.closes x.1 x.2 then closing.getD (guard.reports x.1 x.2) else guard.reports x.1 x.2

/-- The channels closed after the failure. -/
def closings (failed : Option (Phase × Failure)) : List Nat :=
  if isGuarded guard failed && closing.isNone then [channel] else []

/-- The outcome is that of going through the stages in order from the given world. `channel` is the
channel of the run and `closing` what becomes of an attempt to close it. -/
structure Follows (stages : List Stage) (w : World) {α : Type} (out : Except Failure α × World) :
    Prop where
  trace : out.2.trace =
    w.trace ++ Stage.history stages ++ cleanup guard channel (Stage.firstFailure stages)
  failure : failureOf out.1 = verdict guard closing (Stage.firstFailure stages)
  opened : out.2.opened = w.opened + Stage.openings stages
  closed : out.2.closed =
    w.closed ++ closings guard channel closing (Stage.firstFailure stages)

/-- The outcome is that of a handler that was given a failure: what the guard reports goes on, after
an attempt to close the channel if there is to be one. -/
structure Handles (failed : Phase × Failure) (w : World) {α : Type}
    (out : Except Failure α × World) : Prop where
  trace : out.2.trace = w.trace ++ cleanup guard channel (some failed)
  failure : failureOf out.1 = verdict guard closing (some failed)
  opened : out.2.opened = w.opened
  closed : out.2.closed = w.closed ++ closings guard channel closing (some failed)

end Run

namespace Handles

variable {β : Type} {guard : Guard} {channel : Nat} {p : Phase} {f : Failure} {s : Surroundings}
  {w : World}

/-- A handler that closes the channel and passes the failure on. What was logged before does not
matter. -/
lemma close (log : List Logging.Record) {k : Unit → Action β} (hg : guard.closes p f = true)
    (hk : ∀ v, ∃ log, (k ()).perform s v = (.error (guard.reports p f), { v with log })) :
    Handles guard channel (s.closeFailures[w.closeAttempts]?.join) (p, f) w
      ((Action.closeChannel channel >>= k).perform s { w with log }) := by
  have hclose := Action.perform_closeChannel s { w with log } channel
  have hattempts : World.closeAttempts { w with log } = w.closeAttempts := rfl
  rw [hattempts] at hclose
  cases hc : s.closeFailures[w.closeAttempts]?.join with
  | some g =>
    rw [hc] at hclose
    rw [Action.perform_bind_of_error hclose]
    constructor <;> simp [cleanup, verdict, closings, isGuarded, hg]
  | none =>
    rw [hc] at hclose
    obtain ⟨_, hlog⟩ := hk { w with
      trace := w.trace ++ [.close channel]
      closed := w.closed ++ [channel]
      log }
    rw [Action.perform_bind_of_ok hclose, hlog]
    constructor <;> simp [cleanup, verdict, closings, isGuarded, hg]

lemma pass {closing : Option Failure} (hg : guard.closes p f = false) :
    Handles guard channel closing (p, f) w
      ((.error (guard.reports p f), w) : Except Failure β × World) := by
  constructor <;> simp [cleanup, verdict, closings, isGuarded, hg]

end Handles

namespace Follows

open Stage

variable {α β : Type} {guard : Guard} {channel : Nat} {closing : Option Failure}
  {l m : List Stage} {a : Action α} {k : α → Action β} {s : Surroundings} {w v : World}

lemma firstFailure_eq_none {r : α} (h : Follows guard channel closing l w (.ok r, v)) :
    firstFailure l = none := by
  have hf := h.failure
  rw [failureOf_ok, verdict] at hf
  exact Option.map_eq_none_iff.mp hf.symm

lemma firstFailure_eq_some {f : Failure}
    (h : Follows guard channel closing l w ((.error f, v) : Except Failure α × World)) :
    ∃ p g, firstFailure l = some (p, g) ∧
      f = if guard.closes p g then closing.getD (guard.reports p g) else guard.reports p g := by
  have hf := h.failure
  rw [failureOf_error, verdict] at hf
  obtain ⟨⟨p, g⟩, hl, hg⟩ := Option.map_eq_some_iff.mp hf.symm
  exact ⟨p, g, hl, hg.symm⟩

/-- A run that succeeds, and one that starts where it ends. Which failures the first guards does not
matter. -/
lemma append_of_ok {g : Guard} {r : α} {out : Except Failure β × World}
    (ha : Follows g channel closing l w (.ok r, v)) (hk : Follows guard channel closing m v out) :
    Follows guard channel closing (l ++ m) w out := by
  have hl := ha.firstFailure_eq_none
  have hlm := firstFailure_append_of_none (m := m) hl
  have hreached := reached_append_of_none (m := m) hl
  have htrace : v.trace = w.trace ++ history l := by
    simpa [hl, cleanup, isGuarded] using ha.trace
  have hclosed : v.closed = w.closed := by
    simpa [hl, closings, isGuarded] using ha.closed
  refine ⟨?_, ?_, ?_, ?_⟩
  · rw [hk.trace, htrace, hlm, history, history, history, hreached, reached_of_none hl,
      List.flatMap_append, List.append_assoc w.trace]
  · rw [hlm]
    exact hk.failure
  · rw [hk.opened, ha.opened, openings, openings, openings, hreached, reached_of_none hl,
      List.countP_append, Nat.add_assoc]
  · rw [hk.closed, hclosed, hlm]

lemma append_of_error {f : Failure}
    (ha : Follows guard channel closing l w ((.error f, v) : Except Failure α × World)) :
    Follows guard channel closing (l ++ m) w ((.error f, v) : Except Failure β × World) := by
  obtain ⟨p, g, hl, hf⟩ := ha.firstFailure_eq_some
  have hlm := firstFailure_append_of_some (m := m) hl
  have hreached := reached_append_of_some (m := m) hl
  refine ⟨?_, ?_, ?_, ?_⟩
  · rw [ha.trace, history, history, hreached, hlm, hl]
  · rw [hlm, ← hl]
    exact ha.failure
  · rw [ha.opened, openings, openings, hreached]
  · rw [ha.closed, hlm, hl]

/-- What follows a run that succeeds continues it; what follows one that fails is not reached. -/
theorem bind (ha : Follows guard channel closing l w (a.perform s w))
    (hk : ∀ r v, a.perform s w = (.ok r, v) →
      Follows guard channel closing m v ((k r).perform s v)) :
    Follows guard channel closing (l ++ m) w ((a >>= k).perform s w) := by
  rcases h : a.perform s w with ⟨f | r, v⟩
  · rw [Action.perform_bind_of_error h]
    exact (h ▸ ha).append_of_error
  · rw [Action.perform_bind_of_ok h]
    exact (h ▸ ha).append_of_ok (hk r v h)

lemma of_same_history {out : Except Failure α × World} (h : Follows guard channel closing l v out)
    (ht : v.trace = w.trace) (ho : v.opened = w.opened) (hc : v.closed = w.closed) :
    Follows guard channel closing l w out := by
  refine ⟨?_, h.failure, ?_, ?_⟩
  · rw [h.trace, ht]
  · rw [h.opened, ho]
  · rw [h.closed, hc]

lemma nil {r : α} (ht : v.trace = w.trace) (ho : v.opened = w.opened)
    (hc : v.closed = w.closed) : Follows guard channel closing [] w (.ok r, v) := by
  refine ⟨?_, rfl, ?_, ?_⟩
  · simp [ht, history, reached, firstFailure, cleanup, isGuarded]
  · simp [ho, openings, reached]
  · simp [hc, firstFailure, closings, isGuarded]

/-- The first effect of a stage happens before the rest of it. -/
lemma emit {p : Phase} {o : Option Failure} {e : Effect} {es : List Effect} {k : Unit → Action α}
    (h : Follows guard channel closing (⟨p, es, o⟩ :: l) { w with trace := w.trace ++ [e] }
      ((k ()).perform s { w with trace := w.trace ++ [e] })) :
    Follows guard channel closing (⟨p, e :: es, o⟩ :: l) w ((Action.emit e >>= k).perform s w) := by
  have hfirst : firstFailure (⟨p, e :: es, o⟩ :: l) = firstFailure (⟨p, es, o⟩ :: l) := rfl
  have hhistory : history (⟨p, e :: es, o⟩ :: l) = e :: history (⟨p, es, o⟩ :: l) := by
    simp only [history, reached]
    split <;> rfl
  have hopenings : openings (⟨p, e :: es, o⟩ :: l) = openings (⟨p, es, o⟩ :: l) := by
    simp only [openings, reached]
    split <;> rfl
  rw [Action.perform_bind_of_ok (Action.perform_emit s w e)]
  refine ⟨?_, h.failure, ?_, h.closed⟩
  · rw [h.trace, hhistory, hfirst]
    simp
  · rw [h.opened, hopenings]

/-- A stage that succeeds and opens no channel, and what follows it. -/
lemma cons {x : Stage} {out : Except Failure α × World} (hx : x.failure = none)
    (hp : x.phase ≠ .opening) (ht : v.trace = w.trace ++ x.effects) (ho : v.opened = w.opened)
    (hc : v.closed = w.closed) (h : Follows guard channel closing l v out) :
    Follows guard channel closing (x :: l) w out := by
  have hfirst : firstFailure (x :: l) = firstFailure l := firstFailure_cons_of_none hx
  have hreached : reached (x :: l) = x :: reached l := by simp [reached, hx]
  refine ⟨?_, ?_, ?_, ?_⟩
  · rw [h.trace, ht, hfirst, history, history, hreached, List.flatMap_cons,
      List.append_assoc w.trace]
  · rw [h.failure, hfirst]
  · rw [h.opened, ho, openings, openings, hreached, List.countP_cons_of_neg (by simp [hp])]
  · rw [h.closed, hc, hfirst]

lemma idle {p : Phase} {out : Except Failure α × World} (hp : p ≠ .opening)
    (h : Follows guard channel closing l w out) :
    Follows guard channel closing ({ phase := p } :: l) w out :=
  cons rfl hp (by simp) rfl rfl h

lemma ok {x : Stage} {r : α} (hx : x.failure = none) (hp : x.phase ≠ .opening)
    (ht : v.trace = w.trace ++ x.effects) (ho : v.opened = w.opened)
    (hc : v.closed = w.closed) : Follows guard channel closing [x] w (.ok r, v) :=
  cons hx hp ht ho hc (nil rfl rfl rfl)

/-- A stage whose failure closes nothing; no later one is reached. -/
lemma error {x : Stage} {f : Failure} (hx : x.failure = some f)
    (hg : guard.closes x.phase f = false) (ht : v.trace = w.trace ++ x.effects)
    (ho : v.opened = w.opened) (hc : v.closed = w.closed) :
    Follows guard channel closing (x :: l) w
      ((.error (guard.reports x.phase f), v) : Except Failure α × World) := by
  have hfirst : firstFailure (x :: l) = some (x.phase, f) := firstFailure_cons_of_some hx
  have hreached : reached (x :: l) = [x] := by simp [reached, hx]
  refine ⟨?_, ?_, ?_, ?_⟩
  · simp [ht, hfirst, history, hreached, cleanup, isGuarded, hg]
  · simp [hfirst, verdict, hg]
  · simp [ho, openings, hreached, hx]
  · simp [hc, hfirst, closings, isGuarded, hg]

/-- A stage of one effect, which may fail, and what follows it. -/
lemma emit_raise {p : Phase} {o : Option Failure} {e : Effect} {k : Unit → Action α}
    (hp : p ≠ .opening) (hg : ∀ f, guard.closes p f = false) (hr : ∀ f, guard.reports p f = f)
    (h : Follows guard channel closing l { w with trace := w.trace ++ [e] }
      ((k ()).perform s { w with trace := w.trace ++ [e] })) :
    Follows guard channel closing (⟨p, [e], o⟩ :: l) w
      ((Action.emit e >>= fun _ => Action.raise o >>= k).perform s w) := by
  rw [Action.perform_bind_of_ok (Action.perform_emit s w e)]
  cases o with
  | none =>
    rw [Action.perform_bind_of_ok (Action.perform_raise_none ..)]
    exact cons (v := { w with trace := w.trace ++ [e] }) rfl hp rfl rfl rfl h
  | some f =>
    rw [Action.perform_bind_of_error (Action.perform_raise_some ..)]
    have hrun : Follows guard channel closing (⟨p, [e], some f⟩ :: l) w
        ((.error (guard.reports p f), { w with trace := w.trace ++ [e] }) :
          Except Failure α × World) := error rfl (hg f) rfl rfl rfl
    rwa [hr] at hrun

lemma bind_pure {g : α → β} (ha : Follows guard channel closing l w (a.perform s w)) :
    Follows guard channel closing l w ((a >>= fun r => pure (g r)).perform s w) := by
  have h := ha.bind (m := []) (k := fun r => pure (g r)) fun r v _ => nil rfl rfl rfl
  rwa [List.append_nil] at h

/-- A run of tidy stages attempts to close nothing, unless a failure that is guarded ends it. -/
lemma closeAttempts_eq {out : Except Failure α × World} (h : Follows guard channel closing l w out)
    (hg : isGuarded guard (firstFailure l) = false) (hl : ∀ x ∈ l, x.Tidy) :
    out.2.closeAttempts = w.closeAttempts := by
  rw [World.closeAttempts, h.trace, cleanup, hg, List.countP_append, List.countP_append,
    countP_isClose_history hl]
  rfl

lemma closeAttempts_of_ok {r : α} (h : Follows guard channel closing l w (.ok r, v))
    (hl : ∀ x ∈ l, x.Tidy) : v.closeAttempts = w.closeAttempts := by
  refine h.closeAttempts_eq ?_ hl
  rw [h.firstFailure_eq_none]
  rfl

/-- A run in which no failure is guarded, and a handler for its failure. -/
theorem rescue {k : Except Failure α → Action β} (hl : ∀ x ∈ l, x.Tidy)
    (ha : Follows .never channel closing l w (a.perform s w))
    (hok : ∀ r v, Follows guard channel closing [] v ((k (.ok r)).perform s v))
    (herror : ∀ p f v, firstFailure l = some (p, f) → v.closeAttempts = w.closeAttempts →
      Handles guard channel closing (p, f) v ((k (.error f)).perform s v)) :
    Follows guard channel closing l w ((a.attempt >>= k).perform s w) := by
  have hnever : ∀ failed, isGuarded .never failed = false := by
    rintro (_ | _) <;> rfl
  have hattempts := ha.closeAttempts_eq (hnever _) hl
  rw [Action.perform_bind_of_ok (Action.perform_attempt s w a)]
  rcases h : a.perform s w with ⟨f | r, v⟩
  · rw [h] at ha hattempts
    obtain ⟨p, g, hfirst, hf⟩ := ha.firstFailure_eq_some
    obtain rfl : f = g := by simpa [Guard.never] using hf
    have hk := herror p f v hfirst hattempts
    have htrace := ha.trace
    have hclosed := ha.closed
    simp only [cleanup, closings, hnever] at htrace hclosed
    refine ⟨?_, ?_, ?_, ?_⟩
    · rw [hk.trace, htrace, hfirst]
      simp
    · rw [hk.failure, hfirst]
    · rw [hk.opened, ha.opened]
    · rw [hk.closed, hclosed, hfirst]
      simp
  · rw [← List.append_nil l]
    exact (h ▸ ha).append_of_ok (hok r v)

end Follows

end SharedChannel
