import SharedChannel.FileTree
import Mathlib.Data.List.Induction
import Mathlib.Tactic.Common

/-!
# Files that are opened to append

A path without dots stays as it is when it is simplified again (`Path.simple_ofText`), so a file
that is opened to append is the one that its path names. Opening keeps what is in the file, and
leaves all other files alone.
-/

namespace SharedChannel

namespace Path

lemma length_step_le (p : Path) (name : String) : (p.step name).length ≤ p.length + 1 := by
  unfold step
  split
  · omega
  · split
    · split
      · next hroot =>
        rw [eq_of_beq hroot]
        exact Nat.le_add_right _ _
      · split
        · exact Nat.le_of_eq List.length_append
        · rw [List.length_dropLast]
          omega
    · exact Nat.le_of_eq List.length_append

lemma length_foldl_step_le (p : Path) (names : List String) :
    (names.foldl step p).length ≤ p.length + names.length := by
  induction names generalizing p with
  | nil => exact Nat.le_refl _
  | cons name rest ih =>
    have hstep := length_step_le p name
    have hrest := ih (p.step name)
    rw [List.foldl_cons, List.length_cons]
    omega

/-- A step that makes a path longer appends the name. -/
lemma step_eq_append_of_length {p q : Path} {name x : String} (h : p.step name = q ++ [x])
    (hlength : p.length ≤ q.length) : p = q := by
  have hpath : p = q ++ [x] → p = q := by
    intro hp
    rw [hp, List.length_append, List.length_singleton] at hlength
    omega
  unfold step at h
  split at h
  · exact hpath h
  · split at h
    · split at h
      · next hroot => exact hpath ((eq_of_beq hroot).trans h)
      · split at h
        · exact (List.append_inj' h rfl).1
        · have hdrop := congrArg List.length h
          rw [List.length_dropLast, List.length_append, List.length_singleton] at hdrop
          omega
    · exact (List.append_inj' h rfl).1

/-- A simplified path: simplifying it again changes nothing. -/
def Simple (p : Path) : Prop := p.foldl step [] = p

lemma simple_dropLast {p : Path} (h : p.Simple) : Simple p.dropLast := by
  cases p using List.reverseRecOn with
  | nil => exact h
  | append_singleton q x =>
    have hstep : step (q.foldl step []) x = q ++ [x] := by
      unfold Simple at h
      rwa [List.foldl_append] at h
    have hlength := length_foldl_step_le [] q
    rw [List.length_nil, Nat.zero_add] at hlength
    rw [List.dropLast_concat]
    exact step_eq_append_of_length hstep hlength

lemma simple_step {p : Path} (h : p.Simple) (name : String) : Simple (p.step name) := by
  have hagain : p.step name = p ++ [name] → Simple (p.step name) := by
    intro hstep
    unfold Simple at h ⊢
    rw [hstep, List.foldl_append, h, List.foldl_cons, List.foldl_nil]
    exact hstep
  by_cases hdot : (name == "" || name == ".") = true
  · have hstep : p.step name = p := by rw [step, if_pos hdot]
    rw [hstep]
    exact h
  · by_cases hup : (name == "..") = true
    · by_cases hroot : (p == root) = true
      · have hstep : p.step name = root := by rw [step, if_neg hdot, if_pos hup, if_pos hroot]
        rw [hstep]
        rfl
      · by_cases hthere : p.isAlwaysThere = true
        · apply hagain
          rw [step, if_neg hdot, if_pos hup, if_neg hroot, if_pos hthere]
        · have hstep : p.step name = p.dropLast := by
            rw [step, if_neg hdot, if_pos hup, if_neg hroot, if_neg hthere]
          rw [hstep]
          exact simple_dropLast h
    · apply hagain
      rw [step, if_neg hdot, if_neg hup]

lemma simple_foldl {p : Path} (h : p.Simple) (names : List String) :
    Simple (names.foldl step p) := by
  induction names generalizing p with
  | nil => exact h
  | cons name rest ih => exact ih (simple_step h name)

/-- A path that is read from a text is simplified. -/
theorem simple_ofText (s : String) : (ofText s).Simple := by
  have hstart : Simple [] := rfl
  exact simple_foldl hstart _

end Path

namespace FileTree

variable {α : Type} {t t' : FileTree α} {p q : Path}

lemma enter_eq_ok {name : String} (h : t.enter p name = .ok q) : q = p.step name := by
  unfold enter at h
  split at h
  · cases h
  · split at h
    · cases h
    · split at h
      · cases h
      · exact (Except.ok.inj h).symm

lemma foldlM_enter_eq_ok {names : List String} (h : names.foldlM t.enter p = .ok q) :
    q = names.foldl Path.step p := by
  induction names generalizing p with
  | nil => exact (Except.ok.inj h).symm
  | cons name rest ih =>
    rw [List.foldlM_cons] at h
    cases hname : t.enter p name with
    | error f =>
      rw [hname] at h
      cases h
    | ok next =>
      rw [hname] at h
      rw [List.foldl_cons, ← enter_eq_ok hname]
      exact ih h

/-- A simplified path leads to itself, if it leads anywhere. -/
lemma follow_eq_ok (hp : p.Simple) (h : t.follow p = .ok q) : q = p := by
  unfold follow at h
  dsimp only at h
  split at h
  · cases h
  · split at h
    · cases h
    · exact (foldlM_enter_eq_ok h).trans hp

/-- The tree in which a file was opened: it is as it was, or new and blank. -/
lemma openToAppend_eq_ok {blank : α} (hp : p.Simple) (h : t.openToAppend p blank = .ok t') :
    t' = t ∧ (t.read? p).isSome = true ∨ t' = t.write p blank ∧ t.read? p = none := by
  unfold openToAppend at h
  cases hfollow : t.follow p with
  | error f =>
    rw [hfollow] at h
    cases h
  | ok q =>
    obtain rfl := follow_eq_ok hp hfollow
    rw [hfollow] at h
    by_cases hdirectory : t.isDirectory q = true
    · simp [hdirectory, bind, Except.bind] at h
    · cases hfile : t.isFile q with
      | true =>
        simp [hdirectory, hfile, bind, Except.bind] at h
        left
        exact ⟨(Except.ok.inj h).symm, hfile⟩
      | false =>
        simp [hdirectory, hfile, bind, Except.bind] at h
        right
        refine ⟨(Except.ok.inj h).symm, ?_⟩
        unfold isFile at hfile
        simpa using hfile

end FileTree

end SharedChannel
