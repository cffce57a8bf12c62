import SharedChannel.Proofs.LogFiles

/-!
# A setup that fails

A setup looks at its level before it takes off the handlers of earlier setups, and at its format and
its file only after that. So a setup of unknown level leaves the logger alone, and one that fails
later leaves it without handlers of setups, in its own level (`setup_eq_error`).
-/

namespace SharedChannel.Logging

/-- The logger is as it was: its level, its handlers with their formats, and the closed streams. -/
structure SameLogger (q q' : System) : Prop where
  level : q'.level = q.level
  handlers : q'.handlers = q.handlers
  closed : q'.closed = q.closed

variable {c : Config} {l q q' : System} {f : Failure} {n : Int}

/-- All ways in which a setup fails, and what it leaves in each. -/
lemma setup_eq_error (h : (setup c).perform q = (.error f, q')) :
    (c.levelNumber? = none ∧ f = .unknownLevel (Text.upperCase c.level) ∧ q' = q) ∨
      ∃ n, c.levelNumber? = some n ∧ c.Fault q.files f ∧ q' = { q.dropped with level := n } := by
  obtain ⟨hlevel, hrun⟩ | ⟨g, n, hlevel, hfault, hrun⟩ | ⟨r, hrun, -⟩ := setup_inversion c q
  · rw [hrun] at h
    obtain ⟨hf, hq⟩ := Prod.mk.inj h
    exact .inl ⟨hlevel, (Except.error.inj hf).symm, hq.symm⟩
  · rw [hrun] at h
    obtain ⟨hf, hq⟩ := Prod.mk.inj h
    obtain rfl := Except.error.inj hf
    exact .inr ⟨n, hlevel, hfault, hq.symm⟩
  · rw [hrun] at h
    cases h

lemma others_eq_handlers_iff (q : System) : q.others = q.handlers ↔ q.own = [] := by
  unfold System.others System.own
  rw [List.filter_eq_self, List.filter_eq_nil_iff]
  simp

/-- Taking off the handlers of setups changes nothing if and only if there are none. -/
lemma sameLogger_dropped_iff (q : System) (n : Int) :
    SameLogger q { q.dropped with level := n } ↔ n = q.level ∧ q.own = [] := by
  constructor
  · intro h
    exact ⟨h.level, (others_eq_handlers_iff q).mp h.handlers⟩
  · rintro ⟨rfl, hown⟩
    refine ⟨rfl, (others_eq_handlers_iff q).mpr hown, ?_⟩
    change q.closed ++ q.ownStreams = q.closed
    unfold System.ownStreams
    rw [hown, List.filterMap_nil, List.append_nil]

/-- Without handlers of setups every stream that a setup opened is closed. -/
lemma closed_of_sound (hq : q.Sound) (hown : q.own = []) : q.closed = List.range' 1 q.opened := by
  have hstreams := hq.streams
  unfold System.ownStreams at hstreams
  rwa [hown, List.filterMap_nil, List.append_nil] at hstreams

/-- In every history: a setup of unknown level changes nothing. One that fails for its format or its
file leaves the handlers of others and all files alone, and takes off the handlers of earlier
setups, with their streams closed, so that none is there until the next setup. It leaves the logger
as it was if and only if there were none of them and the level was the same. -/
theorem failed_setup_keeps_logger_iff (hl : l.Untouched) (events : List Event) (c : Option Config)
    (h : (Event.setup c).step.perform (afterEvents events l) = (.error f, q')) :
    let q := afterEvents events l
    let config := c.getD (.ofEnvironment q.environment)
    (SameLogger q q' ↔
      config.levelNumber? = none ∨ config.levelNumber? = some q.level ∧ q.own = []) ∧
    (config.levelNumber? = none → f = .unknownLevel (Text.upperCase config.level) ∧ q' = q) ∧
    (∀ n, config.levelNumber? = some n →
      config.Fault q.files f ∧ q'.level = n ∧ q'.closed = List.range' 1 q.opened ∧
        ∀ later, (∀ e ∈ later, e.isSetup = false) →
          (afterEvents later q').own = [] ∧ (afterEvents later q').level = n) ∧
    q'.others = q.others ∧ (∀ h ∈ q'.others, ∀ n, h.stream? = some n → n ∉ q'.closed) ∧
    q'.opened = q.opened ∧ q'.files = q.files := by
  intro q config
  have hsound : q.Sound := sound_afterEvents (sound_of_untouched hl) events
  rw [after_setup] at h
  obtain ⟨hlevel, hf, rfl⟩ | ⟨n, hlevel, hfault, rfl⟩ := setup_eq_error h
  · refine ⟨?_, fun _ => ⟨hf, rfl⟩, ?_, rfl, ?_, rfl, rfl⟩
    · exact iff_of_true ⟨rfl, rfl, rfl⟩ (.inl hlevel)
    · intro n hsome
      rw [hlevel] at hsome
      cases hsome
    · intro h hh n hn
      exact not_mem_closed_of_sound hsound hh hn
  · have hdropped : System.Sound { q.dropped with level := n } := sound_dropped hsound n
    refine ⟨?_, ?_, ?_, others_dropped q, ?_, rfl, rfl⟩
    · rw [sameLogger_dropped_iff, hlevel]
      simp
    · intro hnone
      rw [hlevel] at hnone
      cases hnone
    · intro m hsome
      rw [hlevel] at hsome
      obtain rfl := Option.some.inj hsome
      refine ⟨hfault, rfl, closed_of_sound hdropped (own_dropped q), ?_⟩
      intro later hlater
      obtain ⟨hown, hlevel'⟩ := own_afterEvents hlater { q.dropped with level := n }
      exact ⟨hown.trans (own_dropped q), hlevel'⟩
    · intro h hh m hm
      exact not_mem_closed_of_sound hdropped hh hm

namespace Interrupted

/-! Logging goes to the console and a file, and somebody else listens too. -/

def events : List Event := [
  .foreign .discard none, .setup (some { format := "%(message)s", file := "a.log" })]

def running : System := afterEvents events {}

def unknownLevel : Config := { level := "loud", format := "plain" }

def malformed : Config := { level := "debug", format := "plain" }

def misplaced : Config := { level := "info", file := "missing/a.log" }

end Interrupted

open Interrupted in
theorem failed_setups_of_running_logger :
    let q₁ := (Event.setup (some unknownLevel)).after running
    let q₂ := (Event.setup (some misplaced)).after running
    System.Untouched {} ∧
      (Event.setup (some unknownLevel)).step.perform running =
        (.error (.unknownLevel "LOUD"), q₁) ∧ SameLogger running q₁ ∧
      (Event.setup (some misplaced)).step.perform running = (.error .noSuchFile, q₂) ∧
      ¬ SameLogger running q₂ ∧ q₂.closed = [1] ∧ q₂.others = [⟨.discard, false, none⟩] := by
  intro q₁ q₂
  have hstart : System.Untouched {} := ⟨rfl, rfl, rfl, fun h hh => absurd hh List.not_mem_nil⟩
  have hlevel : (Event.setup (some unknownLevel)).step.perform running =
      (.error (.unknownLevel "LOUD"), q₁) := by decide +kernel
  have hfile : (Event.setup (some misplaced)).step.perform running = (.error .noSuchFile, q₂) := by
    decide +kernel
  obtain ⟨hsame, -⟩ := failed_setup_keeps_logger_iff hstart events _ hlevel
  obtain ⟨hother, -, hknown, hothers, -⟩ := failed_setup_keeps_logger_iff hstart events _ hfile
  obtain ⟨-, -, hclosed, -⟩ := hknown 20 (by decide +kernel)
  refine ⟨hstart, hlevel, hsame.mpr (.inl (by decide +kernel)), hfile, ?_, ?_, ?_⟩
  · intro h
    obtain hnone | ⟨-, hown⟩ := hother.mp h
    · exact absurd hnone (by decide +kernel)
    · exact absurd hown (by decide +kernel)
  · rw [hclosed]
    decide +kernel
  · rw [hothers]
    decide +kernel

open Interrupted in
/-- A setup fails for its format, and neither the level nor the handlers are what they were. -/
theorem malformed_setup_drops_handlers :
    let q := (Event.setup (some malformed)).after running
    (Event.setup (some malformed)).step.perform running = (.error (.invalidFormat "plain"), q) ∧
      running.level = 20 ∧ q.level = 10 ∧ running.handlers.length = 3 ∧
      q.handlers = [⟨.discard, false, none⟩] ∧ running.closed = [] ∧ q.closed = [1] ∧
      ¬ SameLogger running q := by
  intro q
  have hbefore : running.level = 20 := by decide +kernel
  have hafter : q.level = 10 := by decide +kernel
  refine ⟨by decide +kernel, hbefore, hafter, by decide +kernel, by decide +kernel,
    by decide +kernel, by decide +kernel, ?_⟩
  intro h
  have hlevel := h.level
  rw [hbefore, hafter] at hlevel
  exact absurd hlevel (by decide)

end SharedChannel.Logging
