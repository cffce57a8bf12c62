import SharedChannel.Number.Binary64
import Mathlib.Data.Rat.Lemmas
import Mathlib.Tactic.FieldSimp
import Mathlib.Tactic.Linarith
import Mathlib.Tactic.Positivity
import Mathlib.Tactic.Ring

/-!
# Sums that are exact

Rounding leaves a whole number below `2 ^ 53` as it is, and makes one from `2 ^ 1024` on infinite.
So sums of whole numbers are exact as long as they stay below the former, and the comparisons of
finite numbers are those of the rationals that they mean.
-/

namespace SharedChannel

namespace Binary64

variable {a b : Binary64} {x y : ℚ}

lemma value_zero : zero.value? = some 0 := by
  simp [zero, value?]

lemma twoPow_pos (e : ℤ) : 0 < twoPow e := by
  simp only [twoPow, Nat.pow_eq]
  split
  · positivity
  · positivity

lemma twoPow_neg_natCast (j : ℕ) : twoPow (-(j : ℤ)) = 1 / 2 ^ j := by
  unfold twoPow
  by_cases hj : j = 0
  · subst hj
    simp
  · have hneg : ¬ (0 : ℤ) ≤ -(j : ℤ) := by omega
    have htoNat : (- -(j : ℤ)).toNat = j := by omega
    rw [if_neg hneg, htoNat, Nat.pow_eq]
    norm_num

lemma exists_finite (h : a.value? = some x) : ∃ s m e, a = finite s m e := by
  cases a with
  | nan => simp [value?] at h
  | infinite s => simp [value?] at h
  | finite s m e => exact ⟨s, m, e, rfl⟩

lemma value_neg (h : a.value? = some x) : a.neg.value? = some (-x) := by
  obtain ⟨s, m, e, rfl⟩ := exists_finite h
  have hx : (if s then -1 else 1) * (m : ℚ) * twoPow e = x := Option.some.inj h
  rw [neg, value?, ← hx]
  cases s <;> simp

lemma less_iff (ha : a.value? = some x) (hb : b.value? = some y) : a.less b = true ↔ x < y := by
  obtain ⟨s, m, e, rfl⟩ := exists_finite ha
  obtain ⟨t, n, f, rfl⟩ := exists_finite hb
  simp [less, ha, hb]

lemma equal_iff (ha : a.value? = some x) (hb : b.value? = some y) : a.equal b = true ↔ x = y := by
  obtain ⟨s, m, e, rfl⟩ := exists_finite ha
  obtain ⟨t, n, f, rfl⟩ := exists_finite hb
  simp [equal, ha, hb]

lemma atLeast_iff (ha : a.value? = some x) (hb : b.value? = some y) :
    a.atLeast b = true ↔ y ≤ x := by
  rw [atLeast, Bool.or_eq_true, less_iff hb ha, equal_iff ha hb, le_iff_lt_or_eq]
  exact or_congr_right eq_comm

lemma value_positivePart (h : a.value? = some x) : a.positivePart.value? = some (max 0 x) := by
  rw [positivePart]
  by_cases hx : 0 < x
  · rw [if_pos ((less_iff value_zero h).mpr hx), h, max_eq_right hx.le]
  · rw [if_neg (mt (less_iff value_zero h).mp hx), value_zero, max_eq_left (not_lt.mp hx)]

section Rounding

lemma roundQuotient_one (n : ℕ) : roundQuotient n 1 = n := by
  simp [roundQuotient, Nat.mod_one]

lemma binaryExponent_one {n : ℕ} (hn : n ≠ 0) : binaryExponent n 1 = n.log2 := by
  have hle : 2 ^ n.log2 ≤ n := Nat.log2_self_le hn
  have hone : Nat.log2 1 = 0 := by decide
  simp [binaryExponent, hone, hle]

/-- A whole number below the mantissa's limit has a mantissa of its own. -/
lemma value_roundFraction_one (negative : Bool) {n : ℕ} (hn : n < mantissaLimit) :
    (roundFraction negative n 1).value? = some ((if negative then -1 else 1) * (n : ℚ)) := by
  unfold roundFraction
  by_cases hzero : n = 0
  · subst hzero
    simp [value?]
  · have hlog : n.log2 ≤ 52 := by
      have h : n.log2 < 53 := (Nat.log2_lt hzero).mpr hn
      omega
    obtain ⟨j, hj⟩ : ∃ j, j + n.log2 = 52 := ⟨52 - n.log2, by omega⟩
    have hexponent : max minExponent ((n.log2 : ℤ) - 52) = -(j : ℤ) := by
      rw [minExponent]
      omega
    have hlarge : n * 2 ^ j < mantissaLimit := by
      have hlt : n < 2 ^ (n.log2 + 1) := Nat.lt_log2_self
      calc n * 2 ^ j < 2 ^ (n.log2 + 1) * 2 ^ j := by
            exact Nat.mul_lt_mul_of_pos_right hlt (by positivity)
        _ = mantissaLimit := by
            rw [mantissaLimit, Nat.pow_eq, ← pow_add]
            congr 1
            omega
    have htoNat : (- -(j : ℤ)).toNat = j := by omega
    have htoNat' : (-(j : ℤ)).toNat = 0 := by omega
    have hmax : ¬ maxExponent < -(j : ℤ) := by
      rw [maxExponent]
      omega
    have hne : (n * 2 ^ j == mantissaLimit) = false := by
      simpa using hlarge.ne
    rw [if_neg (by simpa using hzero), binaryExponent_one hzero, hexponent]
    simp only [Nat.pow_eq, htoNat, htoNat', pow_zero, mul_one, roundQuotient_one, hne,
      Bool.false_eq_true, if_false, if_neg hmax]
    rw [value?, twoPow_neg_natCast]
    congr 1
    have hpow : (2 : ℚ) ^ j ≠ 0 := by positivity
    push_cast
    field_simp

/-- A whole number that is too large has no mantissa. -/
lemma roundFraction_one_of_large (negative : Bool) {n : ℕ} (hn : 2 ^ 1024 ≤ n) :
    roundFraction negative n 1 = infinite negative := by
  have hpos : n ≠ 0 := by
    rintro rfl
    exact Nat.not_le_of_gt (Nat.two_pow_pos 1024) hn
  have hlog : 1024 ≤ n.log2 := (Nat.le_log2 hpos).mpr hn
  have hexponent : max minExponent ((n.log2 : ℤ) - 52) = (n.log2 : ℤ) - 52 := by
    rw [minExponent]
    omega
  unfold roundFraction
  rw [if_neg (by simpa using hpos), binaryExponent_one hpos, hexponent]
  dsimp only
  split
  all_goals
    dsimp only
    rw [maxExponent, if_pos (by omega)]

/-- A whole number is what it was after rounding. -/
lemma value_round_intCast {k : ℤ} (hk : |k| < mantissaLimit) : (round k).value? = some (k : ℚ) := by
  have hnat : k.natAbs < mantissaLimit := by
    have h : ((k.natAbs : ℕ) : ℤ) = |k| := Int.natCast_natAbs k
    omega
  have hden : (k : ℚ).den = 1 := Rat.den_intCast k
  have hnum : (k : ℚ).num = k := Rat.num_intCast k
  rw [round, hden, hnum, value_roundFraction_one _ hnat]
  congr 1
  by_cases hneg : k < 0
  · have habs : ((k.natAbs : ℕ) : ℤ) = -k := by omega
    have hcast : ((k.natAbs : ℕ) : ℚ) = -(k : ℚ) := by
      rw [← Int.cast_natCast, habs, Int.cast_neg]
    simp [hneg, hcast]
  · have habs : ((k.natAbs : ℕ) : ℤ) = k := by omega
    have hcast : ((k.natAbs : ℕ) : ℚ) = (k : ℚ) := by
      rw [← Int.cast_natCast, habs]
    simp [hneg, hcast]

/-- Rounding lifts nothing above zero. -/
lemma less_zero_roundFraction (n d : ℕ) : zero.less (roundFraction true n d) = false := by
  have hfinite : ∀ m e, zero.less (finite true m e) = false := by
    intro m e
    have hvalue : (finite true m e).value? = some (-1 * m * twoPow e) := by simp [value?]
    have hpos := twoPow_pos e
    rw [Bool.eq_false_iff, ne_eq, less_iff value_zero hvalue, not_lt]
    have hprod : 0 ≤ (m : ℚ) * twoPow e := by positivity
    linarith
  unfold roundFraction
  split
  · exact hfinite _ _
  · dsimp only
    split
    all_goals
      dsimp only
      split
      · rfl
      · exact hfinite _ _

end Rounding

lemma value_add_of_int {k l : ℤ} (ha : a.value? = some (k : ℚ)) (hb : b.value? = some (l : ℚ))
    (hsum : |k + l| < mantissaLimit) : (a.add b).value? = some (k + l : ℚ) := by
  have hcast : (k : ℚ) + (l : ℚ) = ((k + l : ℤ) : ℚ) := by push_cast; rfl
  unfold add
  simp only [ha, hb]
  by_cases hzero : (k : ℚ) + l = 0
  · rw [if_pos hzero, hzero]
    simp [value?]
  · rw [if_neg hzero, hcast, value_round_intCast hsum]

/-- What is left of one whole number after another, in exact arithmetic. Where nothing is left it
does not matter how large the difference is. -/
lemma value_positivePart_sub_of_int {k l : ℤ} (ha : a.value? = some (k : ℚ))
    (hb : b.value? = some (l : ℚ)) (hdiff : k - l < mantissaLimit) :
    (a.sub b).positivePart.value? = some (max 0 (k - l : ℚ)) := by
  have hneg : b.neg.value? = some ((-l : ℤ) : ℚ) := by
    rw [value_neg hb]
    push_cast
    rfl
  by_cases hpos : 0 < k - l
  · have hsum : |k + -l| < mantissaLimit := by
      rw [abs_lt]
      omega
    have hexact := value_add_of_int ha hneg hsum
    rw [sub, value_positivePart hexact]
    push_cast
    ring_nf
  · have hle : (k : ℚ) - l ≤ 0 := by
      exact_mod_cast not_lt.mp hpos
    rw [max_eq_left hle]
    have hnone : zero.less (a.sub b) = false := by
      unfold sub add
      simp only [ha, hneg]
      by_cases hzero : (k : ℚ) + ((-l : ℤ) : ℚ) = 0
      · rw [if_pos hzero, Bool.eq_false_iff, ne_eq,
          less_iff value_zero (y := 0) (by simp [value?])]
        exact lt_irrefl 0
      · rw [if_neg hzero, round]
        have hnum : ((k : ℚ) + ((-l : ℤ) : ℚ)).num < 0 := by
          rw [Rat.num_neg]
          refine lt_of_le_of_ne ?_ hzero
          push_cast
          linarith
        rw [decide_eq_true hnum]
        exact less_zero_roundFraction _ _
    rw [positivePart, hnone]
    exact value_zero

end Binary64

end SharedChannel
