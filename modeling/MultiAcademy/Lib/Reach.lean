import MultiAcademy.Lib.Run

/-!
# A goal within reach

Whether a party can still bring about what it wants by events of its own, from where the system
stands: some run of events that are its own ends in the goal.
-/

namespace MultiAcademy.Lib

universe u v
variable {σ : Type u} {ε : Type v}

/-- Some run of a party's own events leads from `s` to the goal. -/
def CanReach (step : ε → σ → σ) (own : σ → ε → Prop) (goal : σ → Prop) (s : σ) : Prop :=
  ∃ es, Along step own s es ∧ goal (run step s es)

section Reach
variable {step : ε → σ → σ} {own : σ → ε → Prop} {goal : σ → Prop} {s : σ}

theorem CanReach.now (h : goal s) : CanReach step own goal s := ⟨[], trivial, h⟩

theorem CanReach.cons {e : ε} (he : own s e) (h : CanReach step own goal (step e s)) :
    CanReach step own goal s := by
  obtain ⟨es, hown, hgoal⟩ := h
  exact ⟨e :: es, ⟨he, hown⟩, hgoal⟩

/-- **A trap.**  What the party's own events keep, and what excludes the goal, keeps the goal out
of reach. -/
theorem not_canReach {trap : σ → Prop} (hkeep : ∀ s e, trap s → own s e → trap (step e s))
    (hgoal : ∀ s, trap s → ¬ goal s) (h : trap s) : ¬ CanReach step own goal s := by
  rintro ⟨es, hown, hend⟩
  exact hgoal _ (along_invariant hkeep h hown) hend

end Reach
end MultiAcademy.Lib
