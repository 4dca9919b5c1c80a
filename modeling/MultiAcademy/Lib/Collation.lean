import Mathlib

/-!
# The order of a query

A database compares two rows by one column, and by another where the first does not tell them
apart.  Sorted by such a comparison, the rows that are kept of a list are the kept rows of the
sorted list.
-/

namespace MultiAcademy.Lib

variable {α β : Type*}

/-- A comparison under which rows fall into ranks: two rows of a rank are not told apart. -/
structure Collates (lt : α → α → Bool) : Prop where
  asymm : ∀ {a b}, lt a b = true → lt b a = false
  apart : ∀ {a b c}, lt a b = false → lt b c = false → lt a c = false

/-- The second comparison where the first does not tell. -/
def thenBy (lt lt' : α → α → Bool) (a b : α) : Bool := lt a b || (!lt b a && lt' a b)

variable {lt lt' : α → α → Bool}

theorem collates_lt [LinearOrder α] {before : α → α → Bool}
    (h : ∀ a b, before a b = true ↔ a < b) : Collates before where
  asymm := by
    intro a b hab
    rw [← Bool.not_eq_true, h]
    exact lt_asymm ((h a b).1 hab)
  apart := by
    intro a b c hab hbc
    rw [← Bool.not_eq_true, h, not_lt] at *
    exact hbc.trans hab

theorem Collates.comap (h : Collates lt) (f : β → α) : Collates fun a b => lt (f a) (f b) :=
  ⟨h.asymm, h.apart⟩

theorem thenBy_eq_false {a b : α} :
    thenBy lt lt' a b = false ↔ lt a b = false ∧ (lt b a = true ∨ lt' a b = false) := by
  simp only [thenBy]
  cases lt a b <;> cases lt b a <;> simp

theorem Collates.thenBy (h : Collates lt) (h' : Collates lt') : Collates (thenBy lt lt') where
  asymm := by
    intro a b hab
    rw [thenBy_eq_false]
    simp only [Lib.thenBy, Bool.or_eq_true, Bool.and_eq_true, Bool.not_eq_true'] at hab
    rcases hab with hab | ⟨hba, hab⟩
    · exact ⟨h.asymm hab, Or.inl hab⟩
    · exact ⟨hba, Or.inr (h'.asymm hab)⟩
  apart := by
    intro a b c hab hbc
    rw [thenBy_eq_false] at hab hbc ⊢
    refine ⟨h.apart hab.1 hbc.1, ?_⟩
    rcases hab.2 with hba | hab'
    · -- `c` is not before `b`, and `b` is before `a`
      left
      by_contra hca
      have hba' := h.apart hbc.1 (Bool.eq_false_iff.2 hca)
      rw [hba] at hba'
      cases hba'
    rcases hbc.2 with hcb | hbc'
    · left
      by_contra hca
      have hcb' := h.apart (Bool.eq_false_iff.2 hca) hab.1
      rw [hcb] at hcb'
      cases hcb'
    · exact Or.inr (h'.apart hab' hbc')

/-! ## Sorting -/

section Sorting
variable {r : α → α → Prop} [DecidableRel r]

theorem orderedInsert_of_forall {a : α} {l : List α} (h : ∀ b ∈ l, r a b) :
    l.orderedInsert r a = a :: l := by
  cases l with
  | nil => rfl
  | cons b l => exact List.orderedInsert_cons_of_le r l (h b List.mem_cons_self)

/-- A row that is inserted is inserted among the rows that are kept, if it is kept. -/
theorem filter_orderedInsert [IsTrans α r] (p : α → Bool) (a : α) {l : List α}
    (hl : l.Pairwise r) :
    (l.orderedInsert r a).filter p
      = if p a then (l.filter p).orderedInsert r a else l.filter p := by
  induction l with
  | nil => simp [List.filter_cons]
  | cons b l ih =>
    obtain ⟨hb, hl⟩ := List.pairwise_cons.1 hl
    by_cases hab : r a b
    · have hall : ∀ c ∈ (b :: l).filter p, r a c := by
        intro c hc
        rcases List.mem_cons.1 (List.mem_of_mem_filter hc) with rfl | hc
        · exact hab
        · exact Trans.trans hab (hb c hc)
      rw [List.orderedInsert_cons_of_le r l hab, List.filter_cons, orderedInsert_of_forall hall]
    rw [List.orderedInsert_of_not_le r l hab, List.filter_cons, ih hl, List.filter_cons]
    cases p b with
    | true =>
      cases p a with
      | true => exact (List.orderedInsert_of_not_le r _ hab).symm
      | false => rfl
    | false => rfl

theorem filter_insertionSort [Std.Total r] [IsTrans α r] (p : α → Bool) (l : List α) :
    (l.insertionSort r).filter p = (l.filter p).insertionSort r := by
  induction l with
  | nil => rfl
  | cons a l ih =>
    rw [List.insertionSort_cons, filter_orderedInsert p a (List.pairwise_insertionSort r l), ih,
      List.filter_cons]
    split
    · rfl
    · rfl

/-- **To sort the rows and select them is to select them and sort them.** -/
theorem Collates.filter_insertionSort (h : Collates lt) (hr : ∀ a b, r a b ↔ lt b a = false)
    (p : α → Bool) (l : List α) :
    (l.insertionSort r).filter p = (l.filter p).insertionSort r := by
  have : Std.Total r := ⟨fun a b => by
    rw [hr, hr]
    cases hab : lt a b with
    | true => exact Or.inl (h.asymm hab)
    | false => exact Or.inr rfl⟩
  have : IsTrans α r := ⟨fun a b c hab hbc => by
    rw [hr] at hab hbc ⊢
    exact h.apart hbc hab⟩
  exact Lib.filter_insertionSort p l

end Sorting

/-- The distinct values that are kept are the distinct ones of those that are kept. -/
theorem filter_dedup [DecidableEq α] (p : α → Bool) (l : List α) :
    l.dedup.filter p = (l.filter p).dedup := by
  induction l with
  | nil => rfl
  | cons a l ih =>
    by_cases hmem : a ∈ l
    · rw [List.dedup_cons_of_mem hmem, ih, List.filter_cons]
      split
      · rename_i hp
        exact (List.dedup_cons_of_mem (List.mem_filter.2 ⟨hmem, hp⟩)).symm
      · rfl
    rw [List.dedup_cons_of_notMem hmem, List.filter_cons, List.filter_cons, ih]
    split
    · have hmem' : a ∉ l.filter p := fun h => hmem (List.mem_of_mem_filter h)
      exact (List.dedup_cons_of_notMem hmem').symm
    · rfl

end MultiAcademy.Lib
