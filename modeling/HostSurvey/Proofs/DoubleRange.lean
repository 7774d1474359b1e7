import Mathlib
import HostSurvey.Number.Num

/-!
The range of doubles.
-/

namespace HostSurvey

section Order

open Float.Model

theorem float_lt_iff {a b : Float} :
    a < b ↔ a.toModel.unpack.compare b.toModel.unpack = some .lt := by
  show Float.lt a b = true ↔ _
  simp [Float.lt, LT.lt, Float.Model.lt, UnpackedFloat.lt]

theorem float_le_iff {a b : Float} :
    a ≤ b ↔ (a.toModel.unpack.compare b.toModel.unpack).any (·.isLE) = true := by
  show Float.le a b = true ↔ _
  simp only [Float.le, LE.le, Float.Model.le, UnpackedFloat.le]
  exact decide_eq_true_iff

theorem float_le_of_lt {a b : Float} (h : a < b) : a ≤ b := by
  rw [float_lt_iff] at h
  simp [float_le_iff, h]

theorem compare_notANumber (x : UnpackedFloat) : x.compare .notANumber = none := by
  cases x <;> rfl

theorem isNaN_eq_false_of_lt {a b : Float} (h : a < b) : b.isNaN = false := by
  rw [float_lt_iff] at h
  show b.toModel.unpack.isNaN = false
  cases hb : b.toModel.unpack <;> simp_all [UnpackedFloat.isNaN, compare_notANumber]

end Order

theorem le_scaledQuotient_iff {num den : Nat} (hden : 0 < den) (s : Int) (x : Nat) :
    x ≤ (scaledDivision num den s).1 ↔ (x : ℚ) ≤ num * 2 ^ s / den := by
  have hdq : (0 : ℚ) < den := by exact_mod_cast hden
  unfold scaledDivision
  rw [le_div_iff₀ hdq]
  split
  · rename_i hs
    obtain ⟨k, rfl⟩ := Int.eq_ofNat_of_zero_le hs
    simp only [Int.toNat_natCast, Nat.pow_eq, zpow_natCast]
    rw [Nat.le_div_iff_mul_le hden]
    exact_mod_cast Iff.rfl
  · rename_i hs
    obtain ⟨k, hk⟩ : ∃ k : Nat, s = -(k : Int) := ⟨(-s).toNat, by omega⟩
    subst hk
    have hp : (0 : ℚ) < 2 ^ k := by positivity
    simp only [neg_neg, Int.toNat_natCast, Nat.pow_eq, zpow_neg, zpow_natCast]
    rw [Nat.le_div_iff_mul_le (by positivity), ← div_eq_mul_inv, le_div_iff₀ hp]
    constructor
    · intro h
      have : ((x * (den * 2 ^ k) : Nat) : ℚ) ≤ num := by exact_mod_cast h
      push_cast at this
      linarith
    · intro h
      have : ((x * (den * 2 ^ k) : Nat) : ℚ) ≤ num := by push_cast; linarith
      exact_mod_cast this

theorem scaledDivision_neg (num den : Nat) {k : Nat} (hk : 0 < k) :
    scaledDivision num den (-(k : Int)) =
      (num / (den * Nat.pow 2 k), num % (den * Nat.pow 2 k), den * Nat.pow 2 k) := by
  unfold scaledDivision
  rw [if_neg (by omega)]
  simp

theorem scaledQuotient_lt_iff {num den : Nat} (hden : 0 < den) (s : Int) (y : Nat) :
    (scaledDivision num den s).1 < y ↔ (num : ℚ) * 2 ^ s / den < y := by
  rw [← not_le, ← not_le, le_scaledQuotient_iff hden]

/-- The shift that brings `n / d` into `[2^52, 2^53)`, as the rounding takes it. -/
def normalShift (n d : Nat) : Int :=
  let s0 : Int := 52 - ((n.log2 : Int) - (d.log2 : Int))
  if (scaledDivision n d s0).1 < Nat.pow 2 52 then s0 + 1 else s0

/-- The bits of a double in the normal range from its rounded significand `q` (in
`[2^52, 2^53]`) and the shift `s` it was taken at. -/
def normalBits (q : Nat) (s : Int) : Nat :=
  let (m, e) := if q = Nat.pow 2 53 then (Nat.pow 2 52, 53 - s) else (q, 52 - s)
  let biased := e + 1023
  if 2047 ≤ biased then infinityBits else biased.toNat * Nat.pow 2 52 + (m - Nat.pow 2 52)

theorem nearestBits_eq (n d : Nat) : nearestBits n d =
    if 1074 < normalShift n d then
      roundHalfEven (scaledDivision n d 1074).1 (scaledDivision n d 1074).2.1
        (scaledDivision n d 1074).2.2
    else
      normalBits (roundHalfEven (scaledDivision n d (normalShift n d)).1
        (scaledDivision n d (normalShift n d)).2.1 (scaledDivision n d (normalShift n d)).2.2)
        (normalShift n d) := rfl

theorem div_bracket {n d : Nat} (hn : 0 < n) (hd : 0 < d) :
    (2 : ℚ) ^ ((n.log2 : Int) - d.log2 - 1) < n / d ∧
      (n : ℚ) / d < 2 ^ ((n.log2 : Int) - d.log2 + 1) := by
  have hn1 : (2 : ℚ) ^ n.log2 ≤ n := by exact_mod_cast Nat.log2_self_le (by omega)
  have hn2 : (n : ℚ) < 2 ^ (n.log2 + 1) := by exact_mod_cast Nat.lt_log2_self
  have hd1 : (2 : ℚ) ^ d.log2 ≤ d := by exact_mod_cast Nat.log2_self_le (by omega)
  have hd2 : (d : ℚ) < 2 ^ (d.log2 + 1) := by exact_mod_cast Nat.lt_log2_self
  have hdq : (0 : ℚ) < d := by exact_mod_cast hd
  have e1 : (2 : ℚ) ^ ((n.log2 : Int) - d.log2 - 1) = 2 ^ n.log2 / 2 ^ (d.log2 + 1) := by
    rw [show ((n.log2 : Int) - d.log2 - 1) = (n.log2 : Int) - ((d.log2 + 1 : Nat) : Int) by
      push_cast; ring, zpow_sub₀ two_ne_zero, zpow_natCast, zpow_natCast]
  have e2 : (2 : ℚ) ^ ((n.log2 : Int) - d.log2 + 1) = 2 ^ (n.log2 + 1) / 2 ^ d.log2 := by
    rw [show ((n.log2 : Int) - d.log2 + 1) = ((n.log2 + 1 : Nat) : Int) - (d.log2 : Int) by
      push_cast; ring, zpow_sub₀ two_ne_zero, zpow_natCast, zpow_natCast]
  rw [e1, e2]
  constructor
  · rw [div_lt_div_iff₀ (by positivity) hdq]
    calc (2 : ℚ) ^ n.log2 * d ≤ n * d := by gcongr
      _ < n * 2 ^ (d.log2 + 1) := by gcongr
  · rw [div_lt_div_iff₀ hdq (by positivity)]
    calc (n : ℚ) * 2 ^ d.log2 < 2 ^ (n.log2 + 1) * 2 ^ d.log2 := by gcongr
      _ ≤ 2 ^ (n.log2 + 1) * d := by gcongr

theorem scaled_eq (n d : Nat) (s : Int) : (n : ℚ) * 2 ^ s / d = n / d * 2 ^ s := by ring

theorem normalShift_bounds {n d : Nat} (hn : 0 < n) (hd : 0 < d) :
    (2 : ℚ) ^ 52 ≤ n * 2 ^ normalShift n d / d ∧ (n : ℚ) * 2 ^ normalShift n d / d < 2 ^ 53 := by
  obtain ⟨hlo, hhi⟩ := div_bracket hn hd
  set s0 : Int := 52 - ((n.log2 : Int) - (d.log2 : Int)) with hs0
  -- at the first shift the value lies in (2^51, 2^53)
  have hlo0 : (2 : ℚ) ^ 51 < n * 2 ^ s0 / d := by
    have := mul_lt_mul_of_pos_right hlo (show (0 : ℚ) < 2 ^ s0 by positivity)
    rwa [← zpow_add₀ two_ne_zero, show (n.log2 : Int) - d.log2 - 1 + s0 = 51 by omega,
      ← scaled_eq] at this
  have hhi0 : (n : ℚ) * 2 ^ s0 / d < 2 ^ 53 := by
    have := mul_lt_mul_of_pos_right hhi (show (0 : ℚ) < 2 ^ s0 by positivity)
    rwa [← zpow_add₀ two_ne_zero, show (n.log2 : Int) - d.log2 + 1 + s0 = 53 by omega,
      ← scaled_eq] at this
  unfold normalShift
  simp only [← hs0]
  split
  · -- below 2^52 the value is doubled
    rename_i hq
    rw [scaledQuotient_lt_iff hd, Nat.pow_eq] at hq
    have hdouble : (n : ℚ) * 2 ^ (s0 + 1) / d = 2 * (n * 2 ^ s0 / d) := by
      rw [zpow_add_one₀ two_ne_zero]; ring
    rw [hdouble]
    push_cast at hq
    constructor <;> linarith
  · rename_i hq
    rw [scaledQuotient_lt_iff hd, Nat.pow_eq] at hq
    push_cast at hq
    exact ⟨not_lt.mp hq, hhi0⟩

theorem roundHalfEven_le_succ (q r den : Nat) : roundHalfEven q r den ≤ q + 1 := by
  unfold roundHalfEven; split <;> omega

/-- A significand just below `2^53` rounds up to it exactly when the quotient is at least
`2^53 - 1/2`. -/
theorem roundHalfEven_eq_top_iff {q r den : Nat} (hr : r < den) (hq : q < 2 ^ 53) :
    roundHalfEven q r den = 2 ^ 53 ↔ 2 ^ 54 * den ≤ 2 * (q * den + r) + den := by
  constructor
  · intro h
    have hq' : q = 2 ^ 53 - 1 := by
      have := roundHalfEven_le_succ q r den
      unfold roundHalfEven at h
      split at h <;> omega
    subst hq'
    unfold roundHalfEven at h
    split at h <;> omega
  · intro h
    -- the quotient is at least 2^53 - 1/2, so its whole part is 2^53 - 1
    have hq' : q = 2 ^ 53 - 1 := by
      by_contra hne
      have : q * den ≤ (2 ^ 53 - 2) * den := Nat.mul_le_mul_right _ (by omega)
      omega
    subst hq'
    unfold roundHalfEven
    split <;> omega

theorem normalBits_eq_infinityBits_iff {q : Nat} (hq : q ≤ 2 ^ 53) (s : Int) :
    normalBits q s = infinityBits ↔
      2047 ≤ (if q = 2 ^ 53 then 53 - s else 52 - s) + 1023 := by
  unfold normalBits
  simp only [Nat.pow_eq]
  by_cases htop : q = 2 ^ 53
  · simp only [htop, if_true]
    split
    · simp_all
    · simp only [infinityBits]; omega
  · simp only [htop, if_false]
    split
    · simp_all
    · simp only [infinityBits]; omega

/-- Half way between the largest finite double, `(2^53 - 1) · 2^971`, and `2^1024`: the least
magnitude that rounds to nearest beyond the finite doubles. -/
def overflowThreshold : ℚ := (2 ^ 53 - 1 / 2) * 2 ^ 971

theorem lt_overflowThreshold {q : ℚ} (hq : q < 2 ^ 53 - 1 / 2) : q < overflowThreshold := by
  have hpow : (1 : ℚ) ≤ 2 ^ 971 := one_le_pow₀ (by norm_num)
  calc q < 2 ^ 53 - 1 / 2 := hq
    _ = (2 ^ 53 - 1 / 2) * 1 := (mul_one _).symm
    _ ≤ (2 ^ 53 - 1 / 2) * 2 ^ 971 := mul_le_mul_of_nonneg_left hpow (by norm_num)

theorem scaled_shift (n d : Nat) (s t : Int) :
    (n : ℚ) * 2 ^ t / d = n * 2 ^ s / d * 2 ^ (t - s) := by
  rw [scaled_eq, scaled_eq, mul_assoc, ← zpow_add₀ two_ne_zero, add_sub_cancel]

theorem div_eq_normal (n d : Nat) :
    (n : ℚ) / d = n * 2 ^ normalShift n d / d * 2 ^ (0 - normalShift n d) := by
  rw [← scaled_shift]; simp

section Ranges

variable {n d : Nat}

/-- Below the normal range the quotient is far short of the threshold, and its significand
stays under `2^52`, so it rounds to a finite double. -/
theorem subnormal_range (hn : 0 < n) (hd : 0 < d) (hsub : 1074 < normalShift n d) :
    roundHalfEven (scaledDivision n d 1074).1 (scaledDivision n d 1074).2.1
      (scaledDivision n d 1074).2.2 ≠ infinityBits ∧ (n : ℚ) / d < overflowThreshold := by
  obtain ⟨-, hhi⟩ := normalShift_bounds hn hd
  have hsmall : (n : ℚ) * 2 ^ (1074 : Int) / d < 2 ^ 52 := by
    have h2 : (2 : ℚ) ^ (1074 - normalShift n d) ≤ 2 ^ (-1 : Int) :=
      zpow_le_zpow_right₀ one_le_two (by omega)
    rw [scaled_shift n d (normalShift n d)]
    calc (n : ℚ) * 2 ^ normalShift n d / d * 2 ^ (1074 - normalShift n d)
        ≤ n * 2 ^ normalShift n d / d * 2 ^ (-1 : Int) := by gcongr
      _ < 2 ^ 52 := by rw [zpow_neg_one]; linarith
  have hq : (scaledDivision n d 1074).1 < 2 ^ 52 := by
    rw [scaledQuotient_lt_iff hd, Nat.cast_pow, Nat.cast_ofNat]; exact hsmall
  have hne := roundHalfEven_le_succ (scaledDivision n d 1074).1 (scaledDivision n d 1074).2.1
    (scaledDivision n d 1074).2.2
  refine ⟨by simp only [infinityBits]; omega, ?_⟩
  have h3 : (2 : ℚ) ^ (0 - normalShift n d) ≤ 2 ^ (-1075 : Int) :=
    zpow_le_zpow_right₀ one_le_two (by omega)
  have h4 : (2 : ℚ) ^ (-1075 : Int) ≤ 1 := zpow_le_one_of_nonpos₀ one_le_two (by norm_num)
  rw [div_eq_normal, overflowThreshold]
  calc (n : ℚ) * 2 ^ normalShift n d / d * 2 ^ (0 - normalShift n d)
      ≤ 2 ^ 53 * 1 := by gcongr; exact h3.trans h4
    _ < (2 ^ 53 - 1 / 2) * 2 := by norm_num
    _ ≤ (2 ^ 53 - 1 / 2) * 2 ^ 971 := by gcongr; exact le_self_pow₀ one_le_two (by norm_num)

theorem threshold_le_of_normalShift (hn : 0 < n) (hd : 0 < d) (hs : normalShift n d ≤ -972) :
    overflowThreshold ≤ n / d := by
  obtain ⟨hlo, -⟩ := normalShift_bounds hn hd
  have hbig : (2 : ℚ) ^ (972 : Int) ≤ 2 ^ (0 - normalShift n d) :=
    zpow_le_zpow_right₀ one_le_two (by omega)
  have e : (2 : ℚ) ^ (972 : Int) = 2 * 2 ^ 971 := by
    rw [show (972 : Int) = ((971 + 1 : Nat) : Int) from rfl, zpow_natCast, pow_succ, mul_comm]
  rw [div_eq_normal, overflowThreshold]
  calc (2 ^ 53 - 1 / 2) * 2 ^ 971 ≤ (2 : ℚ) ^ 53 * 2 ^ 971 := by gcongr; norm_num
    _ = 2 ^ 52 * (2 * 2 ^ 971) := by rw [pow_succ _ 52, mul_assoc]
    _ ≤ n * 2 ^ normalShift n d / d * 2 ^ (0 - normalShift n d) := by rw [← e]; gcongr

theorem lt_threshold_of_normalShift (hn : 0 < n) (hd : 0 < d) (hs : -970 ≤ normalShift n d) :
    (n : ℚ) / d < overflowThreshold := by
  obtain ⟨-, hhi⟩ := normalShift_bounds hn hd
  have hsmall : (2 : ℚ) ^ (0 - normalShift n d) ≤ 2 ^ (970 : Int) :=
    zpow_le_zpow_right₀ one_le_two (by omega)
  rw [show (970 : Int) = ((970 : Nat) : Int) from rfl, zpow_natCast] at hsmall
  rw [div_eq_normal, overflowThreshold]
  calc (n : ℚ) * 2 ^ normalShift n d / d * 2 ^ (0 - normalShift n d)
      ≤ n * 2 ^ normalShift n d / d * 2 ^ 970 := by gcongr
    _ < 2 ^ 53 * 2 ^ 970 := by gcongr
    _ = 2 ^ 52 * 2 ^ 971 := by
      rw [pow_succ _ 52, pow_succ _ 970, mul_assoc, mul_comm (2 : ℚ) (2 ^ 970)]
    _ < (2 ^ 53 - 1 / 2) * 2 ^ 971 := by gcongr; norm_num

theorem roundHalfEven_top_iff_threshold (hn : 0 < n) (hd : 0 < d) (hs : normalShift n d = -971) :
    roundHalfEven (scaledDivision n d (normalShift n d)).1
        (scaledDivision n d (normalShift n d)).2.1 (scaledDivision n d (normalShift n d)).2.2 =
      2 ^ 53 ↔ overflowThreshold ≤ n / d := by
  obtain ⟨-, hhi⟩ := normalShift_bounds hn hd
  have hdq : (0 : ℚ) < d := by exact_mod_cast hd
  have hq : (scaledDivision n d (normalShift n d)).1 < 2 ^ 53 := by
    rw [scaledQuotient_lt_iff hd]; exact_mod_cast hhi
  -- the shift is kept a variable so that no power of it is ever evaluated
  obtain ⟨k, hk, hsk⟩ : ∃ k : Nat, k = 971 ∧ normalShift n d = -(k : Int) := ⟨971, rfl, hs⟩
  have hD : 0 < d * Nat.pow 2 k := Nat.mul_pos hd (Nat.two_pow_pos k)
  rw [hsk, scaledDivision_neg n d (by omega)] at hq ⊢
  rw [roundHalfEven_eq_top_iff (Nat.mod_lt _ hD) hq, Nat.div_add_mod', Nat.pow_eq,
    overflowThreshold, le_div_iff₀ hdq, ← Nat.cast_le (α := ℚ), ← hk]
  push_cast
  constructor <;> intro h <;> linarith

end Ranges

/-- The nearest double to `n / d` is infinite exactly when `n / d` reaches the overflow
threshold. -/
theorem nearestBits_eq_infinityBits_iff {n d : Nat} (hn : 0 < n) (hd : 0 < d) :
    nearestBits n d = infinityBits ↔ overflowThreshold ≤ n / d := by
  rw [nearestBits_eq]
  split
  · next hsub =>
    obtain ⟨hne, hlt⟩ := subnormal_range hn hd hsub
    exact iff_of_false hne (not_le.mpr hlt)
  · -- in the normal range the rounded significand is at most 2^53, and the exponent decides
    obtain ⟨-, hhi⟩ := normalShift_bounds hn hd
    have hq : (scaledDivision n d (normalShift n d)).1 < 2 ^ 53 := by
      rw [scaledQuotient_lt_iff hd]; exact_mod_cast hhi
    have hr := roundHalfEven_le_succ (scaledDivision n d (normalShift n d)).1
      (scaledDivision n d (normalShift n d)).2.1 (scaledDivision n d (normalShift n d)).2.2
    rw [normalBits_eq_infinityBits_iff (by omega)]
    rcases (show normalShift n d ≤ -972 ∨ normalShift n d = -971 ∨ -970 ≤ normalShift n d by omega)
      with hs | hs | hs
    · exact iff_of_true (by split <;> omega) (threshold_le_of_normalShift hn hd hs)
    · rw [← roundHalfEven_top_iff_threshold hn hd hs]
      split
      · next htop => exact iff_of_true (by omega) htop
      · next htop => exact iff_of_false (by omega) htop
    · exact iff_of_false (by split <;> omega) (not_le.mpr (lt_threshold_of_normalShift hn hd hs))

/-- The quotient of two integers, the divisor not zero, has no finite double exactly when its
magnitude reaches the overflow threshold. -/
theorem divideToDouble?_eq_none_iff (a : Int) {b : Int} (hb : b ≠ 0) :
    divideToDouble? a b = none ↔ overflowThreshold ≤ |(a : ℚ) / b| := by
  unfold divideToDouble?
  by_cases ha : a = 0
  · have hpos : (0 : ℚ) < overflowThreshold := lt_overflowThreshold (by norm_num)
    simp [ha, hpos]
  · have h := nearestBits_eq_infinityBits_iff (Int.natAbs_pos.mpr ha) (Int.natAbs_pos.mpr hb)
    rw [Nat.cast_natAbs, Nat.cast_natAbs] at h
    simp [ha, hb, h, abs_div]

end HostSurvey
