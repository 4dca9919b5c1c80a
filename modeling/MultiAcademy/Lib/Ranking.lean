import Mathlib

/-!
# Competition ranking

Rows in descending order of a key, and the place of a row: one more than the number of rows with a
greater key, so that rows of one key share their place.
-/

namespace MultiAcademy.Lib

variable {α β : Type*} [LinearOrder β] {key : α → β} {rows rows' : List α} {i : ℕ}

/-- A sort in descending order of a key. -/
structure DescendingSort (key : α → β) where
  sort : List α → List α
  perm : ∀ rows, (sort rows).Perm rows
  descending : ∀ rows, (sort rows).Pairwise fun a b => key b ≤ key a

/-- The place of a row with the key `x`. -/
def competitionPlace (key : α → β) (rows : List α) (x : β) : ℕ :=
  (rows.countP fun row => x < key row) + 1

theorem competitionPlace_perm (h : rows.Perm rows') (x : β) :
    competitionPlace key rows x = competitionPlace key rows' x :=
  congrArg (· + 1) (h.countP_eq _)

theorem competitionPlace_map {γ : Type*} (f : γ → α) (rows : List γ) (x : β) :
    competitionPlace key (rows.map f) x = competitionPlace (key ∘ f) rows x :=
  congrArg (· + 1) List.countP_map

/-- Insertion sort is one. -/
theorem pairwise_insertionSort_descending (key : α → β) (rows : List α) :
    (rows.insertionSort fun a b => key b ≤ key a).Pairwise fun a b => key b ≤ key a := by
  have htotal : Std.Total fun a b : α => key b ≤ key a := ⟨fun a b => le_total (key b) (key a)⟩
  have htrans : IsTrans α fun a b => key b ≤ key a := ⟨fun a b c hab hbc => le_trans hbc hab⟩
  exact List.pairwise_insertionSort _ _

def DescendingSort.insertion (key : α → β) : DescendingSort key where
  sort := List.insertionSort fun a b => key b ≤ key a
  perm := List.perm_insertionSort _
  descending := pairwise_insertionSort_descending key

/-- **Only rows in front of a row have a greater key.** -/
theorem countP_take_of_descending (hsorted : rows.Pairwise fun a b => key b ≤ key a)
    (hi : i < rows.length) :
    ((rows.take i).countP fun row => key rows[i] < key row)
      = rows.countP fun row => key rows[i] < key row := by
  have hbehind : ∀ row ∈ rows.drop i, ¬ key rows[i] < key row := by
    intro row hrow
    rw [List.drop_eq_getElem_cons hi, List.mem_cons] at hrow
    rcases hrow with rfl | hrow
    · exact lt_irrefl _
    obtain ⟨j, hj, rfl⟩ := List.mem_drop_iff_getElem.1 hrow
    exact not_lt.2 (List.pairwise_iff_getElem.1 hsorted i (i + 1 + j) hi (by omega) (by omega))
  have hdrop : (rows.drop i).countP (fun row => key rows[i] < key row) = 0 :=
    List.countP_eq_zero.2 (by simpa using hbehind)
  calc (rows.take i).countP (fun row => key rows[i] < key row)
      = (rows.take i).countP (fun row => key rows[i] < key row)
          + (rows.drop i).countP (fun row => key rows[i] < key row) := by rw [hdrop, Nat.add_zero]
    _ = rows.countP fun row => key rows[i] < key row := by
        rw [← List.countP_append, List.take_append_drop]

end MultiAcademy.Lib
