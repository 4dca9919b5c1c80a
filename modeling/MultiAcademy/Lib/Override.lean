import Mathlib

/-!
# Defaults that an owner overrides

Rows that carry an optional owner: a row without one is the default, and a row of an owner
takes its place for that owner.  A query may ask for more of a row (`p`); among the rows
that qualify the first counts.
-/

namespace MultiAcademy.Lib

universe u v
variable {α : Type u} {κ : Type v} [DecidableEq κ]

/-- The first row of an owner that qualifies; the owner `none` is the default. -/
def rowOf (owner : α → Option κ) (p : α → Bool) (x : Option κ) (rows : List α) : Option α :=
  rows.find? fun r => p r && owner r = x

/-- The row that serves `k`: its own, or else the default. -/
def serving (owner : α → Option κ) (p : α → Bool) (k : κ) (rows : List α) : Option α :=
  (rowOf owner p (some k) rows).or (rowOf owner p none rows)

/-- One row of owner `x` is written: replaced, or appended. -/
inductive Put (owner : α → Option κ) (x : Option κ) (new : α) (rows : List α) :
    Option α → List α → Prop
  | replace (i : ℕ) (old : α) (f : α → α) : rows[i]? = some old → owner old = x → f old = new →
      owner new = x → Put owner x new rows (some old) (rows.modify i f)
  | insert : owner new = x → Put owner x new rows none (rows ++ [new])

/-! ## The first row that qualifies -/

/-- Rewriting a row leaves the first match, unless the row is it or becomes it. -/
theorem find?_modify {q : α → Bool} {rows : List α} {i : ℕ} {old : α} (f : α → α)
    (hold : rows[i]? = some old) :
    (rows.modify i f).find? q = rows.find? q
      ∨ ((rows.modify i f).find? q = some (f old) ∧ (q old = true → rows.find? q = some old))
      ∨ (q (f old) = false ∧ rows.find? q = some old) := by
  induction rows generalizing i with
  | nil => cases hold
  | cons r rows ih =>
    cases i with
    | zero =>
      cases hold
      rw [List.modify_zero_cons, List.find?_cons, List.find?_cons]
      cases hnew : q (f old) with
      | true => exact Or.inr (Or.inl ⟨rfl, fun h => by rw [h]⟩)
      | false =>
        cases hq : q old with
        | true => exact Or.inr (Or.inr ⟨rfl, rfl⟩)
        | false => exact Or.inl rfl
    | succ i =>
      rw [List.modify_succ_cons, List.find?_cons, List.find?_cons]
      cases q r with
      | true => exact Or.inl rfl
      | false => exact ih hold

section Put
variable {owner : α → Option κ} {p : α → Bool} {x y : Option κ} {k : κ} {rows rows' : List α}
  {old? : Option α} {new : α}

/-- Who finds a row has one that qualifies. -/
theorem rowOf_eq_some {r : α} (h : rowOf owner p x rows = some r) :
    r ∈ rows ∧ p r = true ∧ owner r = x := by
  have hq := List.find?_some h
  rw [Bool.and_eq_true, decide_eq_true_eq] at hq
  exact ⟨List.mem_of_find?_eq_some h, hq⟩

/-- A written row that does not qualify, and did not, changes nothing. -/
theorem rowOf_put_of_false (h : Put owner x new rows old? rows')
    (hold : ∀ old ∈ old?, (p old && owner old = y) = false)
    (hnew : (p new && owner new = y) = false) :
    rowOf owner p y rows' = rowOf owner p y rows := by
  cases h with
  | replace i old f hrow hx hf hx' =>
    have hfalse := hold old rfl
    rcases find?_modify (q := fun r => p r && owner r = y) f hrow with h | ⟨h, -⟩ | ⟨-, h⟩
    · exact h
    · have hq := List.find?_some h
      rw [hf, hnew] at hq
      cases hq
    have hq := List.find?_some h
    rw [hfalse] at hq
    cases hq
  | insert hx =>
    rw [rowOf, List.find?_append, List.find?_singleton, hnew]
    exact Option.or_none

/-- The rows of other owners are found as before. -/
theorem rowOf_put_of_ne (h : Put owner x new rows old? rows') (hne : y ≠ x) :
    rowOf owner p y rows' = rowOf owner p y rows := by
  refine rowOf_put_of_false h ?_ ?_
  · intro old hmem
    cases h with
    | replace i old' f hrow hx hf hx' =>
      cases hmem
      simp [hx, hne.symm]
    | insert hx => cases hmem
  have hx : owner new = x := by
    cases h with
    | replace i old' f hrow hx hf hx' => exact hx'
    | insert hx => exact hx
  simp [hx, hne.symm]

/-- A written row that qualifies is found, or what was. -/
theorem rowOf_put (h : Put owner x new rows old? rows') (hnew : p new = true) :
    rowOf owner p x rows' = rowOf owner p x rows
      ∨ (rowOf owner p x rows' = some new
        ∧ ∀ old ∈ old?, p old = true → rowOf owner p x rows = some old) := by
  cases h with
  | replace i old f hrow hx hf hx' =>
    rcases find?_modify (q := fun r => p r && owner r = x) f hrow with h | ⟨h, hwas⟩ | ⟨h, -⟩
    · exact Or.inl h
    · rw [hf] at h
      refine Or.inr ⟨h, ?_⟩
      intro old' hmem hp
      cases hmem
      exact hwas (by simp [hp, hx])
    · simp [hf, hnew, hx'] at h
  | insert hx =>
    rw [rowOf, List.find?_append, List.find?_singleton]
    simp only [hnew, hx, decide_true, Bool.and_true, if_true]
    cases hfound : List.find? (fun r => p r && owner r = x) rows with
    | some r => exact Or.inl (by rw [rowOf, hfound]; rfl)
    | none => exact Or.inr ⟨rfl, fun old hmem => by cases hmem⟩

/-! ## The row that serves -/

theorem serving_put_of_false (h : Put owner x new rows old? rows')
    (hold : ∀ old ∈ old?, p old = false) (hnew : p new = false) :
    serving owner p k rows' = serving owner p k rows := by
  have hsame : ∀ y, rowOf owner p y rows' = rowOf owner p y rows := by
    intro y
    refine rowOf_put_of_false h ?_ (by rw [hnew]; rfl)
    intro old hmem
    rw [hold old hmem]
    rfl
  rw [serving, serving, hsame, hsame]

/-- A row serves `k` when it is `k`'s own, or the default and `k` has none. -/
def reaches (owner : α → Option κ) (p : α → Bool) (k : κ) (x : Option κ) (rows : List α) : Bool :=
  x = some k || (x = none && (rowOf owner p (some k) rows).isNone)

theorem serving_put_of_not_reaches (h : Put owner x new rows old? rows')
    (hreach : reaches owner p k x rows = false) :
    serving owner p k rows' = serving owner p k rows := by
  simp only [reaches, Bool.or_eq_false_iff, decide_eq_false_iff_not, Bool.and_eq_false_iff,
    Option.isNone_eq_false_iff] at hreach
  obtain ⟨hother, hshadowed⟩ := hreach
  have hown : rowOf owner p (some k) rows' = rowOf owner p (some k) rows :=
    rowOf_put_of_ne h (Ne.symm hother)
  rw [serving, serving, hown]
  rcases hshadowed with hne | hsome
  · rw [rowOf_put_of_ne h (Ne.symm hne)]
  obtain ⟨r, hr⟩ := Option.isSome_iff_exists.1 hsome
  rw [hr]
  rfl

/-- **What serves after a row is written**: what did, or the row; and when the row replaced
one that qualified, it serves only in its place. -/
theorem serving_put (h : Put owner x new rows old? rows') (hnew : p new = true) :
    serving owner p k rows' = serving owner p k rows
      ∨ (serving owner p k rows' = some new
        ∧ ∀ old ∈ old?, p old = true → serving owner p k rows = some old) := by
  by_cases hreach : reaches owner p k x rows = true
  · simp only [reaches, Bool.or_eq_true, decide_eq_true_eq, Bool.and_eq_true,
      Option.isNone_iff_eq_none] at hreach
    rcases hreach with rfl | ⟨rfl, hnone⟩
    · have hdefault : rowOf owner p none rows' = rowOf owner p none rows :=
        rowOf_put_of_ne h (by simp)
      rw [serving, serving, hdefault]
      rcases rowOf_put h hnew with hsame | ⟨hput, hwas⟩
      · exact Or.inl (by rw [hsame])
      refine Or.inr ⟨by rw [hput]; rfl, ?_⟩
      intro old hmem hp
      rw [hwas old hmem hp]
      rfl
    have hown : rowOf owner p (some k) rows' = none := by
      rw [rowOf_put_of_ne h (by simp), hnone]
    rw [serving, serving, hown, hnone, Option.none_or, Option.none_or]
    exact rowOf_put h hnew
  rw [Bool.not_eq_true] at hreach
  exact Or.inl (serving_put_of_not_reaches h hreach)

/-- What serves after a row is written is the row, or one that was there. -/
theorem serving_put_mem (h : Put owner x new rows old? rows') {r : α}
    (hr : serving owner p k rows' = some r) :
    p r = true ∧ (r = new ∨ (r ∈ rows ∧ (owner r = some k ∨ owner r = none))) := by
  have hmem : ∀ r ∈ rows', r = new ∨ r ∈ rows := by
    intro r hr
    cases h with
    | replace i old f hrow hx hf hx' =>
      obtain ⟨j, hj⟩ := List.mem_iff_getElem?.1 hr
      rw [List.getElem?_modify] at hj
      cases hrow' : rows[j]? with
      | none => rw [hrow'] at hj; cases hj
      | some r' =>
        rw [hrow'] at hj
        cases hj
        by_cases hij : i = j
        · subst hij
          rw [hrow] at hrow'
          cases hrow'
          exact Or.inl (by simp [hf])
        · exact Or.inr (by simpa [hij] using List.mem_of_getElem? hrow')
    | insert hx =>
      rcases List.mem_append.1 hr with hr | hr
      · exact Or.inr hr
      · exact Or.inl (List.mem_singleton.1 hr)
  rw [serving, Option.or_eq_some_iff] at hr
  rcases hr with hr | ⟨-, hr⟩
  · obtain ⟨hin, hp, howner⟩ := rowOf_eq_some hr
    exact ⟨hp, (hmem r hin).imp_right fun hin => ⟨hin, Or.inl howner⟩⟩
  obtain ⟨hin, hp, howner⟩ := rowOf_eq_some hr
  exact ⟨hp, (hmem r hin).imp_right fun hin => ⟨hin, Or.inr howner⟩⟩

end Put
end MultiAcademy.Lib
