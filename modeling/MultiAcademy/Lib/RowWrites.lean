import MultiAcademy.Lib.Table

/-!
# Items that write a row each

A list of items is written to a table one after the other: each to the row that is found for it,
or to a new row.  What is written does not depend on what the row held before, and does not change
which row is found for an item.
-/

namespace MultiAcademy.Lib

universe u v

/-- The row of an item, what it writes to it, and the row it is written to if there is none. -/
structure RowWrites (ι : Type u) (ρ : Type v) where
  find : ι → Table ρ → Option ℕ
  write : ι → ρ → ρ
  fresh : ι → ρ
  find_lt : ∀ {x t i}, find x t = some i → i < t.length
  find_modify : ∀ {x y t i}, find x (List.modify t i (write y)) = find x t
  write_write : ∀ x y r, write x (write y r) = write x r

namespace RowWrites
variable {ι : Type u} {ρ : Type v} (w : RowWrites ι ρ)

/-- One item is written. -/
def step (t : Table ρ) (x : ι) : Table ρ :=
  match w.find x t with
  | some i => List.modify t i (w.write x)
  | none => t ++ [w.fresh x]

/-- The items are written in turn. -/
def run (xs : List ι) (t : Table ρ) : Table ρ := xs.foldl w.step t

/-- The last item that is for a row. -/
def lastFor (t : Table ρ) (i : ℕ) (xs : List ι) : Option ι :=
  (xs.filter fun x => w.find x t = some i).getLast?

/-- Every item is found a row, and the last one for each row writes what the row holds. -/
structure Idle (t : Table ρ) (xs : List ι) : Prop where
  found : ∀ x ∈ xs, (w.find x t).isSome = true
  kept : ∀ i x r, w.lastFor t i xs = some x → t[i]? = some r → w.write x r = r

variable {w} {t : Table ρ} {xs : List ι} {x y : ι} {i : ℕ}

theorem step_of_find (h : w.find x t = some i) : w.step t x = List.modify t i (w.write x) := by
  rw [step, h]

theorem step_of_find_eq_none (h : w.find x t = none) : w.step t x = t ++ [w.fresh x] := by
  rw [step, h]

theorem run_cons : w.run (x :: xs) t = w.run xs (w.step t x) := rfl

theorem run_concat : w.run (xs ++ [x]) t = w.step (w.run xs t) x := by
  rw [run, run, List.foldl_append]
  rfl

theorem lastFor_concat : w.lastFor t i (xs ++ [x])
    = if w.find x t = some i then some x else w.lastFor t i xs := by
  rw [lastFor, lastFor, List.filter_append]
  by_cases h : w.find x t = some i <;> simp [h]

theorem find_of_lastFor (h : w.lastFor t i xs = some x) : x ∈ xs ∧ w.find x t = some i := by
  have hmem := List.mem_filter.1 (List.mem_of_getLast? h)
  exact ⟨hmem.1, of_decide_eq_true hmem.2⟩

theorem lastFor_congr {t' : Table ρ} (h : ∀ x ∈ xs, w.find x t' = w.find x t) :
    w.lastFor t' i xs = w.lastFor t i xs := by
  rw [lastFor, lastFor, List.filter_congr fun x hx => by rw [h x hx]]

/-! ## Lists that find all their rows -/

/-- Such a list changes the row of no item. -/
theorem find_run (h : ∀ x ∈ xs, (w.find x t).isSome = true) : w.find y (w.run xs t) = w.find y t := by
  induction xs generalizing t with
  | nil => rfl
  | cons x xs ih =>
    obtain ⟨i, hi⟩ := Option.isSome_iff_exists.1 (h x List.mem_cons_self)
    have hrest : ∀ x' ∈ xs, (w.find x' (w.step t x)).isSome = true := fun x' hx' => by
      rw [step_of_find hi, w.find_modify]
      exact h x' (List.mem_cons_of_mem x hx')
    rw [run_cons, ih hrest, step_of_find hi, w.find_modify]

/-- Each row is what the last item for it writes. -/
theorem getElem?_run (h : ∀ x ∈ xs, (w.find x t).isSome = true) :
    (w.run xs t)[i]? = t[i]?.map fun r => (w.lastFor t i xs).elim r (w.write · r) := by
  induction xs using List.reverseRecOn with
  | nil => simp [run, lastFor]
  | append_singleton xs x ih =>
    rw [List.forall_mem_append] at h
    obtain ⟨j, hj⟩ := Option.isSome_iff_exists.1 (h.2 x List.mem_cons_self)
    rw [run_concat, step_of_find ((find_run h.1).trans hj), List.getElem?_modify, ih h.1,
      lastFor_concat, hj]
    by_cases hij : j = i
    · subst hij
      cases ht : t[j]? with
      | none => simp
      | some r =>
        cases hlast : w.lastFor t j xs with
        | none => simp
        | some y => simp [w.write_write]
    · simp [hij]

theorem length_le_length_run : t.length ≤ (w.run xs t).length := by
  induction xs generalizing t with
  | nil => exact le_rfl
  | cons x xs ih =>
    refine le_trans ?_ ih
    cases h : w.find x t with
    | none => simp [step_of_find_eq_none h]
    | some i => simp [step_of_find h]

/-- A list that adds no row finds all its rows. -/
theorem found_of_length_run (h : (w.run xs t).length = t.length) :
    ∀ x ∈ xs, (w.find x t).isSome = true := by
  induction xs generalizing t with
  | nil => exact fun x hx => absurd hx List.not_mem_nil
  | cons x xs ih =>
    rw [run_cons] at h
    cases hx : w.find x t with
    | none =>
      have hle : (w.step t x).length ≤ t.length := h ▸ length_le_length_run
      rw [step_of_find_eq_none hx, List.length_append, List.length_singleton] at hle
      exact absurd hle (Nat.not_succ_le_self _)
    | some i =>
      rw [step_of_find hx] at h
      rw [List.forall_mem_cons, hx]
      refine ⟨rfl, fun y hy => ?_⟩
      rw [← w.find_modify]
      exact ih (h.trans (List.length_modify _ _ _).symm) y hy

/-- **A list leaves the table as it was exactly when it is idle.** -/
theorem run_eq_self_iff : w.run xs t = t ↔ w.Idle t xs := by
  constructor
  · intro h
    have hfound := found_of_length_run (congrArg List.length h)
    refine ⟨hfound, fun i x r hlast hr => ?_⟩
    have hrow := getElem?_run (i := i) hfound
    rw [h, hr, hlast] at hrow
    exact (Option.some.inj hrow).symm
  rintro ⟨hfound, hkept⟩
  refine List.ext_getElem? fun i => ?_
  rw [getElem?_run hfound]
  cases hr : t[i]? with
  | none => rfl
  | some r =>
    cases hlast : w.lastFor t i xs with
    | none => rfl
    | some x => exact congrArg some (hkept i x r hlast hr)

/-! ## A second time -/

/-- What the item writes is found again, and it writes to its new row what is there. -/
structure Finds (w : RowWrites ι ρ) (x : ι) : Prop where
  find_append : ∀ {t i r}, w.find x t = some i → w.find x (t ++ [r]) = some i
  find_fresh : ∀ {t}, w.find x t = none → w.find x (t ++ [w.fresh x]) = some t.length
  write_fresh : w.write x (w.fresh x) = w.fresh x

theorem Finds.find_step (hy : w.Finds y) (h : w.find y t = some i) :
    w.find y (w.step t x) = some i := by
  cases hx : w.find x t with
  | none =>
    rw [step_of_find_eq_none hx]
    exact hy.find_append h
  | some j => rw [step_of_find hx, w.find_modify, h]

/-- **After a list is written it is idle.** -/
theorem idle_run (hxs : ∀ x ∈ xs, w.Finds x) : w.Idle (w.run xs t) xs := by
  induction xs using List.reverseRecOn with
  | nil => exact ⟨fun x hx => absurd hx List.not_mem_nil, fun i x r h => by cases h⟩
  | append_singleton xs x ih =>
    rw [List.forall_mem_append] at hxs
    have hx := hxs.2 x List.mem_cons_self
    have ih := ih hxs.1
    rw [run_concat]
    set before := w.run xs t
    have hsame : ∀ y ∈ xs, w.find y (w.step before x) = w.find y before := fun y hy => by
      obtain ⟨j, hj⟩ := Option.isSome_iff_exists.1 (ih.found y hy)
      rw [(hxs.1 y hy).find_step hj, hj]
    constructor
    · rw [List.forall_mem_append]
      refine ⟨fun y hy => by rw [hsame y hy]; exact ih.found y hy, fun y hy => ?_⟩
      rw [List.mem_singleton.1 hy]
      cases hfind : w.find x before with
      | none => rw [step_of_find_eq_none hfind, hx.find_fresh hfind]; rfl
      | some j => rw [hx.find_step hfind]; rfl
    intro i y r hlast hr
    rw [lastFor_concat] at hlast
    by_cases hi : w.find x (w.step before x) = some i
    · -- the row that was written last
      rw [if_pos hi] at hlast
      cases hlast
      cases hfind : w.find x before with
      | none =>
        rw [step_of_find_eq_none hfind, hx.find_fresh hfind, Option.some.injEq] at hi
        rw [step_of_find_eq_none hfind, ← hi, List.getElem?_concat_length,
          Option.some.injEq] at hr
        rw [← hr, hx.write_fresh]
      | some j =>
        rw [hx.find_step hfind, Option.some.injEq] at hi
        rw [step_of_find hfind, hi, List.getElem?_modify_eq] at hr
        obtain ⟨r', -, rfl⟩ := Option.map_eq_some_iff.1 hr
        exact w.write_write _ _ _
    rw [if_neg hi, lastFor_congr hsame] at hlast
    have hfound := (find_of_lastFor hlast).2
    refine ih.kept i y r hlast ?_
    rw [← hr]
    cases hfind : w.find x before with
    | none =>
      rw [step_of_find_eq_none hfind, List.getElem?_append_left (w.find_lt hfound)]
    | some j =>
      have hne : j ≠ i := fun heq => hi (by rw [hx.find_step hfind, heq])
      rw [step_of_find hfind, List.getElem?_modify]
      simp [hne]

/-- The row of an item of an idle list holds what some item of the list wrote. -/
theorem Idle.exists_written (h : w.Idle t xs) (hx : x ∈ xs) (hi : w.find x t = some i) {r : ρ}
    (hr : t[i]? = some r) : ∃ y ∈ xs, w.write y r = r := by
  cases hlast : w.lastFor t i xs with
  | none =>
    have hmem : x ∈ xs.filter fun x => w.find x t = some i :=
      List.mem_filter.2 ⟨hx, decide_eq_true hi⟩
    rw [List.getLast?_eq_none_iff.1 hlast] at hmem
    exact absurd hmem List.not_mem_nil
  | some y => exact ⟨y, (find_of_lastFor hlast).1, h.kept i y r hlast hr⟩

end RowWrites

end MultiAcademy.Lib
