import SharedChannel.Logging.Setup
import Mathlib.Data.List.Induction
import Mathlib.Tactic.Common

/-!
# The loggers of the package

A logger of the package has the name of the package logger with further parts, none of them empty.
Whichever other loggers are in use, its records come to the package logger
(`isBelow_of_packageLogger`), since the nearest logger in use above it is again one of the package.
-/

namespace SharedChannel.Logging

/-- The name consists of that of the package and further parts behind dots. -/
def PackageLogger (name : String) : Prop :=
  ∃ parts : List String, (∀ x ∈ parts, x ≠ "" ∧ '.' ∉ x.toList) ∧
    name.toList = rootName.toList ++ parts.flatMap fun x => '.' :: x.toList

/-- A part as it stands in a name that is written backwards. -/
def BackwardPart (x : List Char) : Prop := x ≠ [] ∧ '.' ∉ x

/-- A name below `top`, written backwards; its last part comes first. -/
def backwardName (top : List Char) (parts : List (List Char)) : List Char :=
  parts.flatMap (· ++ ['.']) ++ top

variable {top : List Char} {parts : List (List Char)}

lemma backwardName_cons (x : List Char) :
    backwardName top (x :: parts) = x ++ '.' :: backwardName top parts := by
  unfold backwardName
  rw [List.flatMap_cons, List.append_assoc, List.append_assoc, List.singleton_append]

lemma length_le_backwardName (top : List Char) (parts : List (List Char)) :
    parts.length ≤ (backwardName top parts).length := by
  induction parts with
  | nil => exact Nat.zero_le _
  | cons x rest ih =>
    rw [backwardName_cons, List.length_append, List.length_cons, List.length_cons]
    omega

/-- Such a name begins with something else than a dot. -/
lemma exists_backwardName_eq_cons (htop : BackwardPart top) (hparts : ∀ x ∈ parts, BackwardPart x) :
    ∃ c rest, backwardName top parts = c :: rest ∧ c ≠ '.' := by
  have hcons : ∀ x more : List Char, BackwardPart x →
      ∃ c rest, x ++ more = c :: rest ∧ c ≠ '.' := by
    intro x more hx
    cases x with
    | nil => exact absurd rfl hx.1
    | cons c rest =>
      have hc : c ≠ '.' := by
        intro hc
        apply hx.2
        rw [hc]
        exact List.mem_cons_self
      exact ⟨c, rest ++ more, rfl, hc⟩
  cases parts with
  | nil =>
    have h := hcons top [] htop
    rwa [List.append_nil] at h
  | cons x rest =>
    rw [backwardName_cons]
    exact hcons x _ (hparts x List.mem_cons_self)

lemma above_cons_of_ne {c : Char} (hc : c ≠ '.') (rest : List Char) :
    above (c :: rest) = above rest := by
  rw [above]
  intro d more hdot
  exact absurd hdot hc

lemma above_append_of_not_mem {x : List Char} (hx : '.' ∉ x) (rest : List Char) :
    above (x ++ rest) = above rest := by
  induction x with
  | nil => rfl
  | cons c x ih =>
    rw [List.mem_cons, not_or] at hx
    rw [List.cons_append, above_cons_of_ne (Ne.symm hx.1), ih hx.2]

/-- Above a name is the one without its last part, and what is above that. -/
lemma above_backwardName_cons {x : List Char} (htop : BackwardPart top) (hx : BackwardPart x)
    (hparts : ∀ x ∈ parts, BackwardPart x) :
    above (backwardName top (x :: parts)) =
      backwardName top parts :: above (backwardName top parts) := by
  obtain ⟨c, rest, hname, hc⟩ := exists_backwardName_eq_cons htop hparts
  rw [backwardName_cons, above_append_of_not_mem hx.2, hname, above, above_cons_of_ne hc]

/-- Every name above one of the package is one of the package, with fewer parts. -/
lemma exists_of_mem_above (htop : BackwardPart top) (hparts : ∀ x ∈ parts, BackwardPart x)
    {n : List Char} (hn : n ∈ above (backwardName top parts)) :
    ∃ fewer, n = backwardName top fewer ∧ fewer.length < parts.length ∧
      ∀ x ∈ fewer, BackwardPart x := by
  induction parts with
  | nil =>
    have hnone : above (backwardName top []) = [] := by
      have h := above_append_of_not_mem htop.2 []
      rwa [List.append_nil] at h
    rw [hnone] at hn
    cases hn
  | cons x rest ih =>
    obtain ⟨hx, hrest⟩ := List.forall_mem_cons.mp hparts
    rw [above_backwardName_cons htop hx hrest] at hn
    obtain rfl | hn := List.mem_cons.mp hn
    · exact ⟨rest, rfl, Nat.lt_succ_self _, hrest⟩
    · obtain ⟨fewer, hfewer, hlength, hall⟩ := ih hrest hn
      exact ⟨fewer, hfewer, Nat.lt_succ_of_lt hlength, hall⟩

lemma top_mem_above {x : List Char} (htop : BackwardPart top) (hx : BackwardPart x)
    (hparts : ∀ x ∈ parts, BackwardPart x) : top ∈ above (backwardName top (x :: parts)) := by
  rw [above_backwardName_cons htop hx hparts]
  induction parts generalizing x with
  | nil => exact List.mem_cons_self
  | cons y rest ih =>
    obtain ⟨hy, hrest⟩ := List.forall_mem_cons.mp hparts
    rw [above_backwardName_cons htop hy hrest]
    exact List.mem_cons_of_mem _ (ih hy hrest)

/-- The next logger in use is nearer to the top, so the records get there. -/
lemma leadsTo_backwardName (htop : BackwardPart top) (known : List (List Char)) {fuel : ℕ}
    (hparts : ∀ x ∈ parts, BackwardPart x) (hfuel : parts.length ≤ fuel) :
    leadsTo top known fuel (backwardName top parts) = true := by
  induction fuel generalizing parts with
  | zero =>
    obtain rfl := List.eq_nil_of_length_eq_zero (Nat.le_zero.mp hfuel)
    exact beq_self_eq_true top
  | succ fuel ih =>
    cases parts with
    | nil =>
      have htop : (backwardName top [] == top) = true := beq_self_eq_true top
      rw [leadsTo, htop, Bool.true_or]
    | cons x rest =>
      obtain ⟨hx, hrest⟩ := List.forall_mem_cons.mp hparts
      have hmem := top_mem_above htop hx hrest
      rw [leadsTo, Bool.or_eq_true]
      right
      cases hfind : (above (backwardName top (x :: rest))).find? fun n =>
        n == top || known.contains n with
      | none =>
        have hnone := List.find?_eq_none.mp hfind top hmem
        simp at hnone
      | some next =>
        obtain ⟨fewer, rfl, hlength, hall⟩ :=
          exists_of_mem_above htop hparts (List.mem_of_find?_eq_some hfind)
        exact ih hall (by omega)

lemma reverse_dotted (parts : List String) :
    (rootName.toList ++ parts.flatMap fun x => '.' :: x.toList).reverse =
      backwardName rootName.toList.reverse (parts.reverse.map fun x => x.toList.reverse) := by
  induction parts using List.reverseRecOn with
  | nil => simp [backwardName]
  | append_singleton parts x ih =>
    rw [List.flatMap_append, ← List.append_assoc, List.reverse_append, ih, List.reverse_append,
      List.reverse_singleton, List.singleton_append, List.map_cons, backwardName_cons,
      List.flatMap_singleton, List.reverse_cons, List.append_assoc, List.singleton_append]

/-- The records of the package come to the package logger. -/
theorem isBelow_of_packageLogger {name : String} (h : PackageLogger name) (known : List String) :
    isBelow rootName known name = true := by
  obtain ⟨parts, hparts, hname⟩ := h
  have htop : BackwardPart rootName.toList.reverse := by
    constructor <;> decide
  have hback : ∀ x ∈ parts.reverse.map fun x => x.toList.reverse, BackwardPart x := by
    intro x hx
    obtain ⟨part, hpart, rfl⟩ := List.mem_map.mp hx
    obtain ⟨hne, hdot⟩ := hparts part (List.mem_reverse.mp hpart)
    constructor
    · simpa using hne
    · simpa using hdot
  have hreverse : name.toList.reverse = backwardName rootName.toList.reverse
      (parts.reverse.map fun x => x.toList.reverse) := by
    rw [hname, reverse_dotted]
  have hlength : (parts.reverse.map fun x => x.toList.reverse).length ≤ name.length := by
    have h := length_le_backwardName rootName.toList.reverse
      (parts.reverse.map fun x => x.toList.reverse)
    rwa [← hreverse, List.length_reverse, String.length_toList] at h
  unfold isBelow
  dsimp only
  rw [hreverse]
  exact leadsTo_backwardName htop _ hback hlength

example (known : List String) : isBelow rootName known "zitadel_client.client" = true :=
  isBelow_of_packageLogger ⟨["client"], by decide, by decide⟩ known

end SharedChannel.Logging
