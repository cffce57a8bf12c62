import SharedChannel.Text.Digit
import Mathlib.Data.List.Basic
import Mathlib.Data.List.Induction
import Mathlib.Tactic.Common

/-!
# Plain numerals

Many texts denote one number: digits come in many scripts, and zeros may stand in front. Only one of
them is plain, in ASCII digits without a zero in front (`PlainNumeral.eq_of_numeralValue_eq`), and
an integer is written in that way (`plainNumeral_toDigits`).
-/

namespace SharedChannel.Text

/-- A numeral in ASCII digits, without a zero in front. -/
structure PlainNumeral (cs : List Char) : Prop where
  ascii : ∀ c ∈ cs, c.isDigit = true
  noLeadingZero : cs.head? ≠ some '0'

variable {c : Char} {cs ds : List Char}

lemma toNat_of_isDigit (h : c.isDigit = true) : ∃ d < 10, c.toNat = 48 + d := by
  have hbounds : 48 ≤ c.toNat ∧ c.toNat ≤ 57 := by
    rw [Char.isDigit, Bool.and_eq_true, decide_eq_true_eq, decide_eq_true_eq] at h
    exact h
  exact ⟨c.toNat - 48, by omega, by omega⟩

/-- The ASCII digits come first among the digits of all scripts. -/
lemma decimalValue?_of_toNat {d : Nat} (hd : d < 10) (hc : c.toNat = 48 + d) :
    decimalValue? c = some d := by
  have hfind : decimalZeros.find? (fun z => z ≤ c.toNat && c.toNat < z + 10) = some 48 := by
    refine List.find?_cons_of_pos ?_
    rw [hc, Bool.and_eq_true, decide_eq_true_eq, decide_eq_true_eq]
    omega
  rw [decimalValue?, hfind, Option.map_some, hc, Nat.add_sub_cancel_left]

lemma numeralValue_append_singleton (cs : List Char) (c : Char) :
    numeralValue (cs ++ [c]) = 10 * numeralValue cs + (decimalValue? c).getD 0 := by
  rw [numeralValue, List.foldl_append, List.foldl_cons, List.foldl_nil]
  rfl

namespace PlainNumeral

lemma last (h : PlainNumeral (cs ++ [c])) : ∃ d < 10, c.toNat = 48 + d ∧
    numeralValue (cs ++ [c]) = 10 * numeralValue cs + d := by
  obtain ⟨d, hd, hc⟩ := toNat_of_isDigit (h.ascii c (by simp))
  refine ⟨d, hd, hc, ?_⟩
  rw [numeralValue_append_singleton, decimalValue?_of_toNat hd hc, Option.getD_some]

lemma of_append (h : PlainNumeral (cs ++ ds)) : PlainNumeral cs where
  ascii c hc := h.ascii c (List.mem_append_left ds hc)
  noLeadingZero hzero := by
    refine h.noLeadingZero ?_
    rw [List.head?_append, hzero, Option.some_or]

/-- A numeral that does not begin with a zero is of a positive number. -/
lemma numeralValue_pos (h : PlainNumeral cs) (hne : cs ≠ []) : 0 < numeralValue cs := by
  induction cs using List.reverseRecOn with
  | nil => exact absurd rfl hne
  | append_singleton front c ih =>
    obtain ⟨d, hd, hc, hvalue⟩ := h.last
    by_cases hfront : front = []
    · -- one digit, which is not zero
      subst hfront
      have hnot : c ≠ '0' := fun hzero => h.noLeadingZero (congrArg some hzero)
      have hd' : d ≠ 0 := by
        rintro rfl
        exact hnot (Char.toNat_inj.mp hc)
      omega
    · have hpos := ih h.of_append hfront
      omega

/-- There is one plain numeral of a number at most. -/
theorem eq_of_numeralValue_eq (hcs : PlainNumeral cs) (hds : PlainNumeral ds)
    (h : numeralValue cs = numeralValue ds) : cs = ds := by
  induction cs using List.reverseRecOn generalizing ds with
  | nil =>
    by_contra hne
    have hpos := hds.numeralValue_pos (fun hnil => hne hnil.symm)
    have hzero : numeralValue [] = 0 := rfl
    omega
  | append_singleton front c ih =>
    cases ds using List.reverseRecOn with
    | nil =>
      have hpos := hcs.numeralValue_pos (by simp)
      have hzero : numeralValue [] = 0 := rfl
      omega
    | append_singleton front' c' =>
      obtain ⟨d, hd, hc, hvalue⟩ := hcs.last
      obtain ⟨d', hd', hc', hvalue'⟩ := hds.last
      have hfront := ih hcs.of_append hds.of_append (by omega)
      have hlast : c = c' := Char.toNat_inj.mp (by omega)
      rw [hfront, hlast]

end PlainNumeral

lemma head?_toDigits_ne_zero {n : Nat} (hn : 0 < n) : (Nat.toDigits 10 n).head? ≠ some '0' := by
  induction n using Nat.strongRecOn with
  | ind n ih =>
    rw [Nat.toDigits_eq_if (by decide)]
    split
    · intro h
      have hzero := Nat.digitChar_eq_zero.mp (Option.some.inj h)
      omega
    · rw [List.head?_append_of_ne_nil _ Nat.toDigits_ne_nil]
      exact ih (n / 10) (by omega) (by omega)

/-- A positive number is written plainly. -/
theorem plainNumeral_toDigits {n : Nat} (hn : 0 < n) : PlainNumeral (Nat.toDigits 10 n) where
  ascii _ := Nat.isDigit_of_mem_toDigits (by decide) (by decide)
  noLeadingZero := head?_toDigits_ne_zero hn

end SharedChannel.Text
