import SharedChannel.World
import Mathlib.Tactic.Common

/-!
# Outcomes of composed actions

An action put together of two ends as the second does, or fails where the first fails. The lemmas
here take an outcome apart at such a joint, so that a run can be followed step by step.
-/

namespace SharedChannel

variable {α β : Type}

/-- The failure that an outcome is, if it is one. -/
def failureOf : Except Failure α → Option Failure
  | .ok _ => none
  | .error f => some f

@[simp] lemma failureOf_ok (r : α) : failureOf (.ok r : Except Failure α) = none := rfl

@[simp] lemma failureOf_error (f : Failure) :
    failureOf (.error f : Except Failure α) = some f := rfl

lemma eq_error_of_failureOf {r : Except Failure α} {f : Failure} (h : failureOf r = some f) :
    r = .error f := by
  cases r with
  | ok x => simp at h
  | error g =>
    obtain rfl : g = f := Option.some.inj h
    rfl

lemma exists_ok_of_failureOf {r : Except Failure α} (h : failureOf r = none) :
    ∃ x, r = .ok x := by
  cases r with
  | ok x => exact ⟨x, rfl⟩
  | error f => simp at h

namespace Failure

/-- Whether a failure has no text. -/
def isMute (f : Failure) : Bool :=
  match f.message with
  | .ok _ => false
  | .error _ => true

/-- What asking a failure for its text leads to: the failure itself, or that of the asking. -/
def afterMessage (f : Failure) : Failure :=
  match f.message with
  | .ok _ => f
  | .error cause => cause

/-- Whether a failure is ordinary and has a text, so that it can be recorded and handed on. -/
def isReportable (f : Failure) : Bool := f.isOrdinary && !f.isMute

/-- What a handler ends with that records ordinary failures, if there is nothing to record. -/
def escaping (f : Failure) : Failure := if f.isOrdinary then f.afterMessage else f

variable {f : Failure}

lemma message_of_not_mute (h : f.isMute = false) : f.message = .ok f.wording := by
  cases f <;> first | rfl | cases h

lemma message_of_mute (h : f.isMute = true) : f.message = .error f.afterMessage := by
  cases f <;> first | rfl | cases h

lemma afterMessage_of_not_mute (h : f.isMute = false) : f.afterMessage = f := by
  rw [afterMessage, message_of_not_mute h]

/-- What stands in the way of a text is not the failure itself. -/
lemma afterMessage_ne_of_mute (h : f.isMute = true) : f.afterMessage ≠ f := by
  cases f with
  | mute kind cause =>
    intro hsame
    have hsize := congrArg SizeOf.sizeOf hsame
    simp [afterMessage, message] at hsize
  | _ => cases h

lemma escaping_eq_iff : f.escaping = f ↔ (f.isOrdinary = true → f.isMute = false) := by
  rw [escaping]
  cases f.isOrdinary with
  | false => simp
  | true =>
    cases hmute : f.isMute with
    | false => simp [afterMessage_of_not_mute hmute]
    | true => simp [afterMessage_ne_of_mute hmute]

lemma isMute_of_isReportable (h : f.isReportable = true) : f.isMute = false := by
  simpa using (Bool.and_eq_true_iff.mp h).2

lemma isOrdinary_of_isReportable (h : f.isReportable = true) : f.isOrdinary = true :=
  (Bool.and_eq_true_iff.mp h).1

lemma isReportable_of_ordinary (hf : f.isOrdinary = true) (h : f.isMute = false) :
    f.isReportable = true := by
  rw [isReportable, hf, h]
  rfl

end Failure

/-- The clock after a step that takes so long. -/
def Value.clockAfter (takes : Value) (clock : Binary64) : Binary64 :=
  match takes.duration? with
  | .ok (some d) => clock.add d
  | _ => clock

namespace Action

variable {a : Action α} {k : α → Action β} {s : Surroundings} {w w' : World}

lemma perform_bind_of_ok {r : α} (h : a.perform s w = (.ok r, w')) :
    (a >>= k).perform s w = (k r).perform s w' := by
  rw [perform_bind, h]

lemma perform_bind_of_error {f : Failure} (h : a.perform s w = (.error f, w')) :
    (a >>= k).perform s w = (.error f, w') := by
  rw [perform_bind, h]

lemma perform_pass (takes : Value) :
    (pass takes).perform s w =
      (takes.duration?.map fun _ => (), { w with clock := takes.clockAfter w.clock }) := by
  rw [pass, perform_bind, perform_ofExcept, Value.clockAfter]
  rcases takes.duration? with f | _ | d <;> rfl

lemma perform_raise (o : Option Failure) :
    (raise o).perform s w = (match o with | some f => .error f | none => .ok (), w) := by
  cases o <;> rfl

lemma eq_of_raise_eq_ok {o : Option Failure} {x : Unit}
    (h : (raise o).perform s w = (.ok x, w')) : w' = w := by
  rw [perform_raise] at h
  exact (congrArg Prod.snd h).symm

/-- A composed action succeeds if both parts do, one after the other. -/
lemma perform_bind_eq_ok {r : β} {w'' : World} :
    (a >>= k).perform s w = (.ok r, w'') ↔
      ∃ x w', a.perform s w = (.ok x, w') ∧ (k x).perform s w' = (.ok r, w'') := by
  constructor
  · intro h
    rcases ha : a.perform s w with ⟨f | x, w'⟩
    · rw [perform_bind_of_error ha] at h
      simp at h
    · rw [perform_bind_of_ok ha] at h
      exact ⟨x, w', rfl, h⟩
  · rintro ⟨x, w', ha, hk⟩
    rw [perform_bind_of_ok ha, hk]

end Action

end SharedChannel
