import Mathlib

/-!
# Passes

A pass folds a step over the ids a query selected.  One row of the state, seen through
`row`, is rewritten by `f` whenever the step on an id *hits* it, and is left alone
otherwise.  When a step that does not hit the row changes nothing about which later
ids would, the pass as a whole rewrites the row exactly when some selected id hits it
in the state the pass started from.

## Main results

* `foldl_invariant`, `foldl_idle` — what a pass keeps, and what an idle pass leaves.
* `row_foldl_of_hit` — the effect of a pass on one row.
-/

namespace MultiAcademy.Lib

universe u v w
variable {σ : Type u} {τ : Type v} {ι : Type w}

/-- A property kept by every step of a fold. -/
theorem foldl_invariant {I : σ → Prop} {step : σ → ι → σ} (hstep : ∀ s k, I s → I (step s k))
    (ids : List ι) {s : σ} (h0 : I s) : I (ids.foldl step s) := by
  induction ids generalizing s with
  | nil => exact h0
  | cons k ids ih => exact ih (hstep s k h0)

/-- A pass that has done no work has left what `proj` sees as it was. -/
theorem foldl_idle (worked : σ → Prop) (proj : σ → τ) {step : σ → ι → σ}
    (hmono : ∀ s k, worked s → worked (step s k))
    (hidle : ∀ s k, worked (step s k) ∨ proj (step s k) = proj s) (ids : List ι) (s : σ) :
    worked (ids.foldl step s) ∨ proj (ids.foldl step s) = proj s := by
  refine foldl_invariant (I := fun s' => worked s' ∨ proj s' = proj s) ?_ ids (Or.inr rfl)
  intro s' k h
  rcases h with h | h
  · exact Or.inl (hmono s' k h)
  · exact (hidle s' k).imp_right fun h' => h'.trans h

section Hit
variable {I : σ → Prop} {step : σ → ι → σ} {row : σ → Option τ} {f : τ → τ}

/-- Once rewritten, a row stays as rewritten to the end of the pass. -/
theorem row_foldl_of_rewritten (hI : ∀ s k, I s → I (step s k))
    (hrow : ∀ s k, I s → row (step s k) = (row s).map f ∨ row (step s k) = row s)
    (ids : List ι) {s : σ} (h0 : I s) (hs : row s = (row s).map f) :
    row (ids.foldl step s) = row s := by
  induction ids generalizing s with
  | nil => rfl
  | cons k ids ih =>
    have hk : row (step s k) = row s := by
      rcases hrow s k h0 with h | h
      · rw [h, ← hs]
      · exact h
    rw [List.foldl_cons, ih (hI s k h0) (by rw [hk]; exact hs), hk]

/-- **The effect of a pass on one row.** -/
theorem row_foldl_of_hit (step : σ → ι → σ) (row : σ → Option τ) (hit : σ → ι → Prop)
    (hf : ∀ a, f (f a) = f a) (hI : ∀ s k, I s → I (step s k))
    (hyes : ∀ s k, I s → hit s k → row (step s k) = (row s).map f)
    (hno : ∀ s k, I s → ¬ hit s k → row (step s k) = row s)
    (hhit : ∀ s k k', I s → ¬ hit s k → (hit (step s k) k' ↔ hit s k'))
    (ids : List ι) {s : σ} (h0 : I s) :
    ((∃ k ∈ ids, hit s k) → row (ids.foldl step s) = (row s).map f)
      ∧ ((¬ ∃ k ∈ ids, hit s k) → row (ids.foldl step s) = row s) := by
  have hrow : ∀ s k, I s → row (step s k) = (row s).map f ∨ row (step s k) = row s := by
    intro s k hs
    by_cases h : hit s k
    · exact Or.inl (hyes s k hs h)
    · exact Or.inr (hno s k hs h)
  induction ids generalizing s with
  | nil => simp
  | cons k ids ih =>
    rw [List.foldl_cons]
    by_cases hk : hit s k
    · -- The row is rewritten now, and `f` changes nothing more.
      refine ⟨fun _ => ?_, fun h => absurd ⟨k, List.mem_cons_self, hk⟩ h⟩
      have hnow := hyes s k h0 hk
      have hidem : row (step s k) = (row (step s k)).map f := by
        rw [hnow, Option.map_map]
        congr 1
        funext a
        exact (hf a).symm
      rw [row_foldl_of_rewritten hI hrow ids (hI s k h0) hidem, hnow]
    have hrest := ih (hI s k h0)
    have hex : (∃ k' ∈ ids, hit (step s k) k') ↔ ∃ k' ∈ k :: ids, hit s k' := by
      simp only [List.mem_cons, exists_eq_or_imp, hk, false_or]
      constructor
      · rintro ⟨k', hk', h⟩; exact ⟨k', hk', (hhit s k k' h0 hk).1 h⟩
      · rintro ⟨k', hk', h⟩; exact ⟨k', hk', (hhit s k k' h0 hk).2 h⟩
    rw [hex, hno s k h0 hk] at hrest
    exact hrest

end Hit
end MultiAcademy.Lib
