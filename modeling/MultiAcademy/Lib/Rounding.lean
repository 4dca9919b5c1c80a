import Mathlib

/-!
# Rounding to an integer

The nearest integer, and of two that are as near the even one; and floating point numbers, with
as much of their rounding as a bound on a quotient needs.
-/

namespace MultiAcademy.Lib

/-- The nearest integer, of two the even one. -/
def roundHalfEven (x : ℚ) : ℤ :=
  if x - ⌊x⌋ < 1 / 2 ∨ x - ⌊x⌋ = 1 / 2 ∧ ⌊x⌋ % 2 = 0 then ⌊x⌋ else ⌊x⌋ + 1

section HalfEven
variable {x : ℚ} {n : ℤ}

theorem roundHalfEven_le_iff (hn : n % 2 = 0) : roundHalfEven x ≤ n ↔ x ≤ n + 1 / 2 := by
  have hlow := Int.floor_le x
  have hhigh := Int.lt_floor_add_one x
  rcases lt_trichotomy ⌊x⌋ n with hlt | heq | hgt
  · have hcast : (⌊x⌋ : ℚ) + 1 ≤ n := by exact_mod_cast hlt
    refine iff_of_true ?_ (by linarith)
    unfold roundHalfEven
    split <;> omega
  · subst heq
    unfold roundHalfEven
    split
    · rename_i hhalf
      refine iff_of_true le_rfl ?_
      rcases hhalf with hless | ⟨heven, -⟩ <;> linarith
    rename_i hhalf
    push Not at hhalf
    refine iff_of_false (by omega) fun hle => ?_
    exact hhalf.2 (le_antisymm (by linarith) hhalf.1) hn
  have hcast : (n : ℚ) + 1 ≤ ⌊x⌋ := by exact_mod_cast hgt
  refine iff_of_false ?_ (by linarith)
  unfold roundHalfEven
  split <;> omega

theorem le_roundHalfEven_iff (hn : n % 2 = 0) : n ≤ roundHalfEven x ↔ n - 1 / 2 ≤ x := by
  have hlow := Int.floor_le x
  have hhigh := Int.lt_floor_add_one x
  rcases lt_trichotomy (⌊x⌋ + 1) n with hlt | heq | hgt
  · have hcast : (⌊x⌋ : ℚ) + 1 + 1 ≤ n := by exact_mod_cast hlt
    refine iff_of_false ?_ (by linarith)
    unfold roundHalfEven
    split <;> omega
  · have hcast : (⌊x⌋ : ℚ) + 1 = n := by exact_mod_cast heq
    unfold roundHalfEven
    split
    · rename_i hhalf
      refine iff_of_false (by omega) fun hle => ?_
      rcases hhalf with hless | ⟨-, heven⟩
      · linarith
      · omega
    rename_i hhalf
    push Not at hhalf
    exact iff_of_true heq.ge (by linarith [hhalf.1])
  have hcast : (n : ℚ) ≤ ⌊x⌋ := by exact_mod_cast Int.lt_add_one_iff.1 hgt
  refine iff_of_true ?_ (by linarith)
  unfold roundHalfEven
  split <;> omega

end HalfEven

/-! ## Floating point -/

inductive Float64
  | finite (value : ℚ)
  | infinite (negative : Bool)
  | nan
  deriving DecidableEq

def Float64.positive : Float64 → Bool
  | .finite value => 0 < value
  | .infinite negative => !negative
  | .nan => false

/-- The nearest floating point number; `none` beyond the largest. -/
structure FloatRules where
  near : ℚ → Option ℚ
  near_mono : ∀ {a b x y : ℚ}, a ≤ b → near a = some x → near b = some y → x ≤ y
  near_half : ∀ n : ℤ, |n| ≤ 2 ^ 53 → near (n / 2) = some ((n : ℚ) / 2)

namespace FloatRules

/-- Exact numbers. -/
def exact : FloatRules where
  near := some
  near_mono := by
    rintro a b x y hab ⟨⟩ ⟨⟩
    exact hab
  near_half := fun _ _ => rfl

variable (rules : FloatRules)

/-- `(a / b) * 100`, for a positive `b`; `none` where that is no finite number. -/
def percent : Float64 → Float64 → Option ℚ
  | .finite a, .finite b => do
    let share ← rules.near (a / b)
    rules.near (share * 100)
  | .finite _, .infinite _ => some 0
  | _, _ => none

variable {rules}

theorem near_int {n : ℤ} (hn : |n| ≤ 2 ^ 52) : rules.near n = some (n : ℚ) := by
  have htwice := rules.near_half (2 * n) (by rw [abs_mul]; norm_num; omega)
  rwa [Int.cast_mul, Int.cast_ofNat, mul_div_cancel_left₀ _ two_ne_zero] at htwice

/-- **A part of a whole is a percentage.** -/
theorem percent_mem {a b x : ℚ} (ha : 0 ≤ a) (hab : a ≤ b)
    (hx : rules.percent (.finite a) (.finite b) = some x) : 0 ≤ x ∧ x ≤ 100 := by
  simp only [percent, Option.bind_eq_bind, Option.bind_eq_some_iff] at hx
  obtain ⟨share, hshare, hx⟩ := hx
  have hzero : rules.near 0 = some 0 := by simpa using rules.near_half 0 (by norm_num)
  have hone : rules.near 1 = some 1 := by
    exact_mod_cast @near_int rules 1 (by norm_num)
  have hhundred : rules.near 100 = some 100 := by
    exact_mod_cast @near_int rules 100 (by norm_num)
  have hlow : 0 ≤ share := rules.near_mono (div_nonneg ha (ha.trans hab)) hzero hshare
  have hhigh : share ≤ 1 := rules.near_mono (div_le_one_of_le₀ hab (ha.trans hab)) hshare hone
  exact ⟨rules.near_mono (by linarith) hzero hx, rules.near_mono (by linarith) hx hhundred⟩

end FloatRules

end MultiAcademy.Lib
