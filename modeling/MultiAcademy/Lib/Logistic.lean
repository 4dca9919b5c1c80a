import Mathlib

/-!
# Comparing the logistic curve with a threshold

`1 / (1 + b ^ (-x))` grows with `x`, so it is at least `t` from some `x` on.  For a rational `x`
the comparison needs whole powers only, and so it can be computed.
-/

namespace MultiAcademy.Lib

noncomputable def logistic (b x : ℝ) : ℝ := 1 / (1 + b ^ (-x))

/-- `1 / (1 + b ^ (-x))` is at least `t`. -/
def logisticReaches (b t x : ℚ) : Bool := (t / (1 - t)) ^ x.den ≤ b ^ x.num

/-- The curve to the nearest of `n` steps. -/
def logisticRounded (b : ℚ) (n : ℕ) (x : ℚ) : ℚ :=
  (List.range n).countP (fun k : ℕ => logisticReaches b ((2 * k + 1) / (2 * n)) x) / n

section Reaches
variable {b t : ℚ}

theorem le_logistic_iff {b t x : ℝ} (hb : 0 < b) (ht : t < 1) :
    t ≤ logistic b x ↔ t / (1 - t) ≤ b ^ x := by
  have hpow : 0 < b ^ x := Real.rpow_pos_of_pos hb x
  have hcurve : logistic b x = b ^ x / (b ^ x + 1) := by
    rw [logistic, Real.rpow_neg hb.le]
    field_simp
  rw [hcurve, le_div_iff₀ (by linarith), div_le_iff₀ (by linarith)]
  constructor <;> intro h <;> linarith

/-- What is computed is the comparison with the curve. -/
theorem logisticReaches_iff {x : ℚ} (hb : 0 < b) (ht0 : 0 ≤ t) (ht1 : t < 1) :
    logisticReaches b t x = true ↔ (t : ℝ) ≤ logistic b x := by
  have hb' : (0 : ℝ) < b := by exact_mod_cast hb
  have ht1' : (t : ℝ) < 1 := by exact_mod_cast ht1
  have hodds : (0 : ℝ) ≤ t / (1 - t) := by
    have : (0 : ℝ) ≤ t := by exact_mod_cast ht0
    exact div_nonneg this (by linarith)
  -- both sides to the power of the denominator
  have hpow : ((b : ℝ) ^ (x : ℝ)) ^ x.den = (b : ℝ) ^ x.num := by
    rw [← Real.rpow_natCast, ← Real.rpow_mul hb'.le, ← Real.rpow_intCast]
    congr 1
    exact_mod_cast Rat.mul_den_eq_num x
  rw [le_logistic_iff hb' ht1', ← pow_le_pow_iff_left₀ hodds (Real.rpow_pos_of_pos hb' _).le
    x.den_nz, hpow, logisticReaches, decide_eq_true_iff]
  exact_mod_cast Iff.rfl

/-- The number from which on the threshold is reached. -/
theorem exists_threshold (hb : 1 < b) (ht0 : 0 < t) (ht1 : t < 1) :
    ∃ θ : ℝ, ∀ x : ℚ, logisticReaches b t x = true ↔ θ ≤ x := by
  have hb' : (1 : ℝ) < b := by exact_mod_cast hb
  have ht0' : (0 : ℝ) < t := by exact_mod_cast ht0
  have ht1' : (t : ℝ) < 1 := by exact_mod_cast ht1
  refine ⟨Real.logb b (t / (1 - t)), fun x => ?_⟩
  rw [logisticReaches_iff (by linarith) ht0.le ht1, le_logistic_iff (by linarith) ht1',
    Real.logb_le_iff_le_rpow hb' (div_pos ht0' (by linarith))]

theorem logisticReaches_mono (hb : 1 < b) (ht0 : 0 < t) (ht1 : t < 1) {x y : ℚ} (hxy : x ≤ y)
    (hx : logisticReaches b t x = true) : logisticReaches b t y = true := by
  obtain ⟨θ, hθ⟩ := exists_threshold hb ht0 ht1
  rw [hθ] at hx ⊢
  exact hx.trans (by exact_mod_cast hxy)

/-- Two different numbers below a threshold can be moved up together until it lies between
them. -/
theorem exists_logisticReaches_apart (hb : 1 < b) (ht0 : 0 < t) (ht1 : t < 1) {x y : ℚ}
    (hxy : x < y) (hx : logisticReaches b t x = false) :
    ∃ d : ℚ, 0 ≤ d ∧ logisticReaches b t (x + d) = false
      ∧ logisticReaches b t (y + d) = true := by
  obtain ⟨θ, hθ⟩ := exists_threshold hb ht0 ht1
  have hbelow : (x : ℝ) < θ := by
    rw [← not_le, ← hθ, hx]
    exact Bool.false_ne_true
  have hxy' : (x : ℝ) < y := by exact_mod_cast hxy
  obtain ⟨d, hlow, hhigh⟩ := exists_rat_btwn (max_lt (sub_pos.2 hbelow) (sub_lt_sub_left hxy' θ))
  obtain ⟨hpos, hreach⟩ := max_lt_iff.1 hlow
  refine ⟨d, by exact_mod_cast hpos.le, ?_, ?_⟩
  · rw [← Bool.not_eq_true, hθ, not_le, Rat.cast_add]
    linarith
  rw [hθ, Rat.cast_add]
  linarith

end Reaches

end MultiAcademy.Lib
