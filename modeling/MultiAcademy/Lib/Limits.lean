import Mathlib

/-!
# Queries that stop at a number of rows

A query lists rows in an order and stops at the `n`-th.  The rows it shows are the newest of a
kind when it selects the kind before it stops; one that selects from what it was shown, or that
lists the oldest first, may show fewer, or others.
-/

namespace MultiAcademy.Lib

variable {α τ : Type*}

/-- An order in which a database may list rows: `le a b` is asked of a row and the ones after
it. -/
structure Listing (le : α → α → Prop) where
  list : List α → List α
  perm : ∀ rows, (list rows).Perm rows
  sorted : ∀ rows, (list rows).Pairwise le

/-- The listing that keeps rows of one time in the order they have. -/
def Listing.sorting (le : α → α → Prop) [DecidableRel le] [Std.Total le] [IsTrans α le] :
    Listing le where
  list := List.insertionSort le
  perm := List.perm_insertionSort le
  sorted := List.pairwise_insertionSort le

/-- Rows that are in order are listed as they are. -/
theorem Listing.sorting_of_pairwise {le : α → α → Prop} [DecidableRel le] [Std.Total le]
    [IsTrans α le] {rows : List α} (h : rows.Pairwise le) :
    (Listing.sorting le).list rows = rows :=
  h.insertionSort_eq

/-- The rows shown are the newest of these, `n` of them if there are as many. -/
structure Newest [LE τ] (time : α → τ) (n : ℕ) (rows shown : List α) : Prop where
  nodup : shown.Nodup
  subset : ∀ a ∈ shown, a ∈ rows
  length_eq : shown.length = min n rows.length
  newest : ∀ a ∈ rows, a ∉ shown → ∀ b ∈ shown, time a ≤ time b

section Limits
variable [LinearOrder τ] {time : α → τ} {n : ℕ} {rows : List α}

/-- Where there are no more than `n`, all are shown. -/
theorem Newest.perm_of_length_le {shown : List α} (h : Newest time n rows shown)
    (hle : rows.length ≤ n) : shown.Perm rows :=
  (List.subperm_of_subset h.nodup h.subset).perm_of_length_le
    (by rw [h.length_eq, Nat.min_eq_right hle])

/-- The order of the rows that are to be shown does not matter. -/
theorem Newest.congr {rows' shown : List α} (hperm : rows.Perm rows') :
    Newest time n rows shown ↔ Newest time n rows' shown := by
  constructor
  · rintro ⟨hnodup, hsubset, hlength, hnewest⟩
    exact ⟨hnodup, fun a ha => hperm.subset (hsubset a ha), by rw [hlength, hperm.length_eq],
      fun a ha => hnewest a (hperm.symm.subset ha)⟩
  rintro ⟨hnodup, hsubset, hlength, hnewest⟩
  exact ⟨hnodup, fun a ha => hperm.symm.subset (hsubset a ha),
    by rw [hlength, hperm.length_eq], fun a ha => hnewest a (hperm.subset ha)⟩

/-- A row that is not among the first is among the others. -/
theorem mem_drop_of_not_mem_take {a : α} (h : a ∈ rows) (hnot : a ∉ rows.take n) :
    a ∈ rows.drop n := by
  rw [← List.take_append_drop n rows] at h
  exact (List.mem_append.1 h).resolve_left hnot

/-- The rows after the first ones of a listing stand after each of them. -/
theorem pairwise_take_drop {le : α → α → Prop} (h : rows.Pairwise le) {a b : α}
    (ha : a ∈ rows.take n) (hb : b ∈ rows.drop n) : le a b := by
  rw [← List.take_append_drop n rows, List.pairwise_append] at h
  exact h.2.2 a ha b hb

/-- **To select after the stop** shows the newest of a kind exactly when none of the kind comes
after the stop, or nothing else before it. -/
theorem newest_filter_take_iff (hnodup : rows.Nodup)
    (hsorted : rows.Pairwise fun a b => time b ≤ time a) (p : α → Bool) :
    Newest time n (rows.filter p) ((rows.take n).filter p)
      ↔ (∀ a ∈ rows.drop n, p a = false) ∨ ∀ a ∈ rows.take n, p a = true := by
  have hsplit : (rows.filter p).length
      = ((rows.take n).filter p).length + ((rows.drop n).filter p).length := by
    rw [← List.length_append, ← List.filter_append, List.take_append_drop]
  have hle : ((rows.take n).filter p).length ≤ n :=
    (List.length_filter_le _ _).trans (List.length_take_le n rows)
  have hlength : Newest time n (rows.filter p) ((rows.take n).filter p)
      ↔ ((rows.take n).filter p).length = min n (rows.filter p).length := by
    refine ⟨Newest.length_eq, fun h => ⟨(hnodup.sublist (List.take_sublist n rows)).filter p,
      fun a ha => ?_, h, fun a ha hnot b hb => ?_⟩⟩
    · exact ((List.take_sublist n rows).filter p).subset ha
    -- a row of the kind that is not shown comes after the stop
    obtain ⟨hmem, hp⟩ := List.mem_filter.1 ha
    have hdrop : a ∈ rows.drop n :=
      mem_drop_of_not_mem_take hmem fun htake => hnot (List.mem_filter.2 ⟨htake, hp⟩)
    exact pairwise_take_drop hsorted (List.mem_of_mem_filter hb) hdrop
  rw [hlength, hsplit]
  constructor
  · intro h
    by_cases hrest : ((rows.drop n).filter p).length = 0
    · left
      intro a ha
      have hnil := List.filter_eq_nil_iff.1 (List.length_eq_zero_iff.1 hrest) a ha
      exact Bool.eq_false_iff.2 hnil
    right
    have hfull : ((rows.take n).filter p).length = (rows.take n).length :=
      le_antisymm (List.length_filter_le _ _) ((List.length_take_le n rows).trans (by omega))
    exact List.length_filter_eq_length_iff.1 hfull
  rintro (hnone | hall)
  · have hrest : (rows.drop n).filter p = [] :=
      List.filter_eq_nil_iff.2 fun a ha => by rw [hnone a ha]; exact Bool.false_ne_true
    rw [hrest]
    simp only [List.length_nil, Nat.add_zero]
    omega
  rw [List.filter_eq_self.2 hall, List.length_take]
  by_cases hshort : rows.length ≤ n
  · rw [List.drop_eq_nil_of_le hshort]
    simp only [List.filter_nil, List.length_nil]
    omega
  · omega

/-- **To list the oldest first** shows the newest exactly when the stop leaves nothing out, or
the rows are all of one time. -/
theorem newest_take_oldest_iff (hn : 0 < n) (hnodup : rows.Nodup)
    (hsorted : rows.Pairwise fun a b => time a ≤ time b) :
    Newest time n rows (rows.take n)
      ↔ rows.length ≤ n ∨ ∀ a ∈ rows, ∀ b ∈ rows, time a = time b := by
  constructor
  · intro h
    by_cases hshort : rows.length ≤ n
    · exact Or.inl hshort
    right
    have hout : ∀ b ∈ rows.drop n, b ∉ rows.take n := fun b hb htake =>
      List.disjoint_take_drop hnodup le_rfl htake hb
    have heq : ∀ a ∈ rows.take n, ∀ b ∈ rows.drop n, time a = time b := fun a ha b hb =>
      le_antisymm (pairwise_take_drop hsorted ha hb)
        (h.newest b (List.mem_of_mem_drop hb) (hout b hb) a ha)
    -- one row on each side of the stop
    obtain ⟨first, hfirst⟩ : ∃ a, a ∈ rows.take n :=
      List.exists_mem_of_length_pos (by rw [List.length_take]; omega)
    obtain ⟨last, hlast⟩ : ∃ b, b ∈ rows.drop n :=
      List.exists_mem_of_length_pos (by rw [List.length_drop]; omega)
    have hsame : ∀ a ∈ rows, time a = time first := by
      intro a ha
      by_cases htake : a ∈ rows.take n
      · exact (heq a htake last hlast).trans (heq first hfirst last hlast).symm
      · exact (heq first hfirst a (mem_drop_of_not_mem_take ha htake)).symm
    exact fun a ha b hb => (hsame a ha).trans (hsame b hb).symm
  intro h
  refine ⟨hnodup.sublist (List.take_sublist n rows), fun a => List.mem_of_mem_take,
    List.length_take, fun a ha hnot b hb => ?_⟩
  rcases h with hshort | hsame
  · rw [List.take_of_length_le hshort] at hnot
    exact absurd ha hnot
  · exact (hsame a ha b (List.mem_of_mem_take hb)).le

end Limits

end MultiAcademy.Lib
