import Mathlib

/-!
# Progress along an infinite run

A run that goes on for ever, of a step that takes its events from a sequence.  Each step
leaves what is looked at as it is, or lowers its rank; when something that is not at rank
zero is always moved in the end, rank zero is reached for good.
-/

namespace MultiAcademy.Lib

universe u v
variable {σ : Type u} {ε : Type v}

/-- The states of an infinite run. -/
def states (step : ε → σ → σ) (events : ℕ → ε) (s : σ) : ℕ → σ
  | 0 => s
  | n + 1 => step (events n) (states step events s n)

/-- An invariant of every step holds in every state. -/
theorem states_invariant {step : ε → σ → σ} {I : σ → Prop}
    (hstep : ∀ s e, I s → I (step e s)) (events : ℕ → ε) {s : σ} (h0 : I s) :
    ∀ n, I (states step events s n) := by
  intro n
  induction n with
  | zero => exact h0
  | succ n ih => exact hstep _ _ ih

section Rank
variable {x : ℕ → σ} {rank : σ → ℕ}

/-- Later values are the same or have a lower rank. -/
theorem same_or_lower (hstep : ∀ n, x (n + 1) = x n ∨ rank (x (n + 1)) < rank (x n)) {n m : ℕ}
    (hnm : n ≤ m) : x m = x n ∨ rank (x m) < rank (x n) := by
  induction m, hnm using Nat.le_induction with
  | base => exact Or.inl rfl
  | succ m _ ih =>
    rcases hstep m with hsame | hlower
    · rw [hsame]
      exact ih
    rcases ih with ih | ih
    · exact Or.inr (ih ▸ hlower)
    · exact Or.inr (Nat.lt_trans hlower ih)

/-- **Rank zero is reached for good**, when every other value is moved in the end. -/
theorem eventually_rank_zero (x : ℕ → σ) (rank : σ → ℕ)
    (hstep : ∀ n, x (n + 1) = x n ∨ rank (x (n + 1)) < rank (x n))
    (hmove : ∀ n, 0 < rank (x n) →
      ∃ m, n ≤ m ∧ (x m = x n → rank (x (m + 1)) < rank (x m))) :
    ∃ n, ∀ m, n ≤ m → rank (x m) = 0 := by
  have hzero : ∀ k n, rank (x n) ≤ k → ∃ m, rank (x m) = 0 := by
    intro k
    induction k with
    | zero => exact fun n hn => ⟨n, Nat.le_zero.1 hn⟩
    | succ k ih =>
      intro n hn
      by_cases hpos : 0 < rank (x n)
      · obtain ⟨m, hnm, hlower⟩ := hmove n hpos
        rcases same_or_lower hstep hnm with hsame | hless
        · have hnext := hlower hsame
          rw [hsame] at hnext
          exact ih (m + 1) (by omega)
        · exact ih m (by omega)
      · exact ⟨n, by omega⟩
  obtain ⟨n, hn⟩ := hzero _ 0 le_rfl
  refine ⟨n, fun m hnm => ?_⟩
  rcases same_or_lower hstep hnm with hsame | hless
  · rw [hsame, hn]
  · omega

end Rank
end MultiAcademy.Lib
