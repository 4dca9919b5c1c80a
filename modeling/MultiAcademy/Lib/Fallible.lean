import Mathlib

/-!
# Programs that may refuse

A program in `Except` that returns has passed each of its steps and each of its checks.
These are the rules that take such a program apart, one step at a time.
-/

namespace MultiAcademy.Lib

universe u v
variable {ε : Type u} {α β : Type v}

/-- A program that returns ran its first step, and the rest on what it returned. -/
theorem bind_eq_ok {x : Except ε α} {f : α → Except ε β} {b : β} :
    x >>= f = .ok b ↔ ∃ a, x = .ok a ∧ f a = .ok b := by
  cases x with
  | error e => simp [bind, Except.bind]
  | ok a => simp [bind, Except.bind]

theorem map_eq_ok {x : Except ε α} {f : α → β} {b : β} :
    f <$> x = .ok b ↔ ∃ a, x = .ok a ∧ f a = b := by
  cases x with
  | error e => simp [Functor.map, Except.map]
  | ok a => simp [Functor.map, Except.map]

/-- Programs whose answers are wrapped in one way have the same answers. -/
theorem eq_of_map_eq {f : α → β} (hf : ∀ a b, f a = f b → a = b) {x y : Except ε α}
    (h : x.map f = y.map f) : x = y := by
  cases x with
  | error e =>
    cases y with
    | error e' => exact congrArg Except.error (Except.error.inj h)
    | ok b => cases h
  | ok a =>
    cases y with
    | error e' => cases h
    | ok b => exact congrArg Except.ok (hf a b (Except.ok.inj h))

/-- A program that returns passed its first check. -/
theorem check_eq_ok {c : Prop} [Decidable c] {e : ε} {f : α → Except ε β} {rest : Except ε β}
    {b : β} : (if c then throw e >>= f else rest) = .ok b ↔ ¬ c ∧ rest = .ok b := by
  by_cases hc : c
  · rw [if_pos hc]
    exact iff_of_false (by rintro ⟨⟩) fun h => h.1 hc
  · rw [if_neg hc, and_iff_right hc]

end MultiAcademy.Lib
