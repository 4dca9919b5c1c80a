import Mathlib

/-!
# Constraints over switches

What a constraint solver is given: switches, of which exactly one is on, or at most so many
together with a number that is taken already.  A solver's answer is feasible when it meets every
constraint of the model; which of the feasible answers is best is left to the objective.
-/

namespace MultiAcademy.Lib

universe u
variable {ν : Type u} {value : ν → Bool}

/-- At two places of a list the property holds. -/
theorem two_le_countP {l : List ν} {a b : ν} (ha : a ∈ l) (hb : b ∈ l) (hne : a ≠ b)
    (hva : value a = true) (hvb : value b = true) : 2 ≤ l.countP value := by
  induction l with
  | nil => exact absurd ha List.not_mem_nil
  | cons c l ih =>
    have hone : ∀ {x}, x ∈ l → value x = true → 1 ≤ l.countP value := fun hx hvx =>
      List.countP_pos_iff.2 ⟨_, hx, hvx⟩
    rw [List.countP_cons]
    rcases List.mem_cons.1 ha with rfl | hal
    · have hbl : b ∈ l := (List.mem_cons.1 hb).resolve_left (Ne.symm hne)
      have := hone hbl hvb
      rw [if_pos hva]
      omega
    rcases List.mem_cons.1 hb with rfl | hbl
    · have := hone hal hva
      rw [if_pos hvb]
      omega
    have := ih hal hbl
    omega

/-- A constraint over switches named by `ν`. -/
inductive Constraint (ν : Type u)
  | exactlyOne (switches : List ν)
  | atMost (switches : List ν) (taken bound : ℕ)

/-- The switches that are on meet the constraint. -/
def Constraint.Holds (value : ν → Bool) : Constraint ν → Prop
  | exactlyOne switches => switches.countP value = 1
  | atMost switches taken bound => switches.countP value + taken ≤ bound

instance (c : Constraint ν) : Decidable (c.Holds value) := by
  cases c <;> (dsimp only [Constraint.Holds]; infer_instance)

namespace Constraint.Holds

variable {switches : List ν}

theorem exists_on (h : (exactlyOne switches).Holds value) :
    ∃ a ∈ switches, value a = true := by
  rw [← List.countP_pos_iff]
  exact Nat.lt_of_lt_of_eq Nat.zero_lt_one h.symm

theorem only {a b : ν} (h : (exactlyOne switches).Holds value)
    (ha : a ∈ switches) (hb : b ∈ switches) (hva : value a = true) (hvb : value b = true) :
    a = b := by
  by_contra hne
  have htwo := two_le_countP ha hb hne hva hvb
  rw [show switches.countP value = 1 from h] at htwo
  omega

/-- With room for one, no two switches are on. -/
theorem unique {taken : ℕ} {a b : ν} (h : (atMost switches taken 1).Holds value)
    (ha : a ∈ switches) (hb : b ∈ switches) (hva : value a = true) (hvb : value b = true) :
    a = b := by
  by_contra hne
  have htwo := two_le_countP ha hb hne hva hvb
  have hroom : switches.countP value + taken ≤ 1 := h
  omega

/-- With room for one, a switch that is on leaves nothing taken. -/
theorem alone {taken : ℕ} {a : ν} (h : (atMost switches taken 1).Holds value)
    (ha : a ∈ switches) (hva : value a = true) : taken = 0 := by
  have hone : 0 < switches.countP value := List.countP_pos_iff.2 ⟨a, ha, hva⟩
  have hroom : switches.countP value + taken ≤ 1 := h
  omega

end Constraint.Holds

/-- The constraints of a model, and the switches it has a solver leave off where it can. -/
structure ConstraintModel (ν : Type u) where
  constraints : List (Constraint ν)
  objective : List ν

/-- The answer meets every constraint. -/
def ConstraintModel.Feasible (model : ConstraintModel ν) (value : ν → Bool) : Prop :=
  ∀ c ∈ model.constraints, c.Holds value

instance (model : ConstraintModel ν) : Decidable (model.Feasible value) :=
  inferInstanceAs (Decidable (∀ c ∈ model.constraints, c.Holds value))

end MultiAcademy.Lib
