import Mathlib

/-!
# Tables with automatic row numbers

A table is the list of its rows in the order they were inserted, and a row's id is
its position.  Rows are appended and rewritten, never removed, which is how a table
with an auto-increment key behaves as long as nothing deletes from it: ids are
unique by construction, so no statement carries a uniqueness hypothesis.

A query returns the ids of the matching rows in ascending order.

## Main definitions

* `Table.select t p` — the ids of the rows that satisfy `p`.
* `Table.first?`, `Table.last?` — the first and the last of them.
* `Table.updateWhere t p f`, `Table.updateIds t ids f` — rewrite every row that
  satisfies `p`, and the rows of some ids.
* `Table.upsert t p r` — replace the first row that satisfies `p`, or append one.
* `Table.total t p w` — what `w` adds up to over the rows that satisfy `p`.
* `Table.sumIdx t f` — what `f` adds up to over the rows and their ids.
-/

namespace MultiAcademy.Lib

universe u v

/-- The rows of a table; a row's id is its index. -/
abbrev Table (α : Type u) := List α

namespace Table
variable {α : Type u} {β : Type v}

/-- The id the next inserted row receives. -/
def nextId (t : Table α) : ℕ := t.length

/-- Append a row. -/
def insert (t : Table α) (r : α) : Table α := t ++ [r]

/-- The ids of the rows that satisfy `p`, in ascending order. -/
def select (t : Table α) (p : α → Bool) : List ℕ :=
  (List.range t.length).filter fun i => t[i]?.any p

/-- The lowest id of a row that satisfies `p`. -/
def first? (t : Table α) (p : α → Bool) : Option ℕ := (t.select p).head?

/-- The highest id of a row that satisfies `p`. -/
def last? (t : Table α) (p : α → Bool) : Option ℕ := (t.select p).getLast?

/-- Rewrite every row that satisfies `p`. -/
def updateWhere (t : Table α) (p : α → Bool) (f : α → α) : Table α :=
  t.map fun r => if p r then f r else r

/-- Rewrite the rows of some ids. -/
def updateIds (t : Table α) (ids : List ℕ) (f : α → α) : Table α :=
  t.mapIdx fun i r => if i ∈ ids then f r else r

/-- Put a row in the place of the first that satisfies `p`, or append it. -/
def upsert (t : Table α) (p : α → Bool) (r : α) : Table α :=
  match t.first? p with
  | some i => t.modify i fun _ => r
  | none => t.insert r

/-- `COALESCE(SUM(w), 0)` over the rows that satisfy `p`. -/
def total (t : Table α) (p : α → Bool) (w : α → ℤ) : ℤ := ((t.filter p).map w).sum

/-- Some row satisfies `p`. -/
def existsRow (t : Table α) (p : α → Bool) : Bool := t.any p

variable {t : Table α} {p : α → Bool}

variable {r : α} {f : α → α} {i : ℕ}

theorem mem_select :
    i ∈ t.select p ↔ ∃ r, t[i]? = some r ∧ p r = true := by
  simp only [select, List.mem_filter, List.mem_range, Option.any_eq_true]
  constructor
  · rintro ⟨_, h⟩; exact h
  rintro ⟨r, hr, hp⟩
  exact ⟨(List.getElem?_eq_some_iff.1 hr).1, r, hr, hp⟩

theorem nodup_select (t : Table α) (p : α → Bool) : (t.select p).Nodup :=
  List.nodup_range.filter _

/-- A row alone satisfies `p` exactly when it is the only id selected. -/
theorem select_eq_singleton :
    t.select p = [i] ↔ i ∈ t.select p ∧ ∀ k ∈ t.select p, k = i := by
  have hnodup := nodup_select t p
  constructor
  · intro h
    simp [h]
  rintro ⟨hi, honly⟩
  match hselect : t.select p with
  | [] => rw [hselect] at hi; exact absurd hi List.not_mem_nil
  | [k] => rw [honly k (by rw [hselect]; simp)]
  | k :: k' :: rest =>
    have hk : k = i := honly k (by rw [hselect]; simp)
    have hk' : k' = i := honly k' (by rw [hselect]; simp)
    rw [hselect, hk, hk'] at hnodup
    simp at hnodup

theorem select_insert (t : Table α) (r : α) (p : α → Bool) :
    (t.insert r).select p = t.select p ++ if p r then [t.nextId] else [] := by
  have hold : ∀ i ∈ List.range t.length, (t.insert r)[i]?.any p = t[i]?.any p := by
    intro i hi
    rw [insert, List.getElem?_append_left (List.mem_range.1 hi)]
  simp only [select, insert, List.length_append, List.length_singleton, List.range_succ,
    List.filter_append, nextId]
  congr 1
  · exact List.filter_congr hold
  · by_cases hp : p r <;> simp [hp]

theorem existsRow_iff :
    t.existsRow p = true ↔ ∃ (i : ℕ) (r : α), t[i]? = some r ∧ p r = true := by
  simp only [existsRow, List.any_eq_true]
  constructor
  · rintro ⟨r, hr, hp⟩
    obtain ⟨i, hi⟩ := List.mem_iff_getElem?.1 hr
    exact ⟨i, r, hi, hp⟩
  rintro ⟨i, r, hr, hp⟩
  exact ⟨r, List.mem_of_getElem? hr, hp⟩

theorem mem_of_first? (h : t.first? p = some i) :
    i ∈ t.select p := List.mem_of_mem_head? h

/-- A row that satisfies `p` makes the first such row exist. -/
theorem exists_first? (hr : r ∈ t) (hp : p r = true) :
    ∃ (k : ℕ) (r' : α), t.first? p = some k ∧ t[k]? = some r' ∧ p r' = true := by
  obtain ⟨i, hi⟩ := List.mem_iff_getElem?.1 hr
  have hmem : i ∈ t.select p := mem_select.2 ⟨r, hi, hp⟩
  cases hfirst : t.first? p with
  | none =>
    rw [first?, List.head?_eq_none_iff] at hfirst
    rw [hfirst] at hmem
    exact absurd hmem List.not_mem_nil
  | some k =>
    obtain ⟨r', hr', hp'⟩ := mem_select.1 (mem_of_first? hfirst)
    exact ⟨k, r', rfl, hr', hp'⟩

/-- No row satisfies `p` when there is no first one. -/
theorem first?_eq_none :
    t.first? p = none ↔ ∀ r ∈ t, p r = false := by
  constructor
  · intro h r hr
    cases hp : p r with
    | false => rfl
    | true =>
      obtain ⟨k, r', hfirst, -, -⟩ := exists_first? hr hp
      rw [h] at hfirst
      cases hfirst
  intro h
  cases hfirst : t.first? p with
  | none => rfl
  | some k =>
    obtain ⟨r, hr, hp⟩ := mem_select.1 (mem_of_first? hfirst)
    rw [h r (List.mem_of_getElem? hr)] at hp
    cases hp

/-- The first row stays the first when a rewrite does not touch what `p` reads. -/
theorem first?_modify (t : Table α) {p : α → Bool} (i : ℕ)
    (hf : ∀ r, p (f r) = p r) : first? (t.modify i f) p = t.first? p := by
  have hany : ∀ k : ℕ, (t.modify i f)[k]?.any p = t[k]?.any p := by
    intro k
    rw [List.getElem?_modify]
    cases t[k]? with
    | none => rfl
    | some r =>
      by_cases hk : i = k
      · simp [hk, hf]
      · simp [hk]
  simp only [first?, select, List.length_modify, hany]

/-- An inserted row is the first when no other row satisfies `p`. -/
theorem first?_insert (t : Table α) (r : α) (p : α → Bool) :
    (t.insert r).first? p = (t.first? p).or (if p r then some t.nextId else none) := by
  have hold : (List.range t.length).filter (fun k => (t.insert r)[k]?.any p)
      = (List.range t.length).filter fun k => t[k]?.any p := by
    refine List.filter_congr fun k hk => ?_
    rw [insert, List.getElem?_append_left (List.mem_range.1 hk)]
  have hnew : (t.insert r)[t.length]?.any p = p r := by
    rw [insert, List.getElem?_append_right (Nat.le_refl _), Nat.sub_self]
    rfl
  rw [first?, first?, select, select, insert, List.length_append, List.length_singleton,
    List.range_succ, List.filter_append, ← insert, hold, List.filter_cons, List.filter_nil, hnew,
    List.head?_append, nextId]
  by_cases hp : p r = true
  · rw [if_pos hp, if_pos hp, List.head?_cons]
  · rw [if_neg hp, if_neg hp, List.head?_nil]

theorem first?_cons (r : α) (t : Table α) (p : α → Bool) :
    first? (r :: t) p = if p r then some 0 else (t.first? p).map (· + 1) := by
  have htail : ((List.range t.length).map Nat.succ).filter (fun i => (r :: t)[i]?.any p)
      = (t.select p).map Nat.succ := by
    rw [List.filter_map]
    rfl
  rw [first?, select, List.length_cons, List.range_succ_eq_map, List.filter_cons, htail,
    List.getElem?_cons_zero, Option.any_some]
  split
  · rfl
  rw [List.head?_map]
  rfl

/-- The row of the first id is the first row. -/
theorem first?_bind (t : Table α) (p : α → Bool) :
    ((t.first? p).bind fun i => t[i]?) = t.find? p := by
  induction t with
  | nil => rfl
  | cons r t ih =>
    rw [first?_cons, List.find?_cons]
    cases p r with
    | true => rfl
    | false =>
      rw [← ih, if_neg Bool.false_ne_true, Option.bind_map]
      rfl

theorem upsert_cons (r' : α) (t : Table α) (p : α → Bool) (r : α) :
    upsert (r' :: t) p r = if p r' then r :: t else r' :: t.upsert p r := by
  unfold upsert
  rw [first?_cons]
  cases p r' with
  | true => rfl
  | false =>
    cases t.first? p with
    | none => rfl
    | some i => rfl

/-- The row that was put is found. -/
theorem find?_upsert_self (t : Table α) {p : α → Bool} (hr : p r = true) :
    (t.upsert p r).find? p = some r := by
  induction t with
  | nil => exact List.find?_cons_of_pos hr
  | cons r' t ih =>
    rw [upsert_cons]
    cases hp : p r' with
    | true => exact List.find?_cons_of_pos hr
    | false => rw [if_neg Bool.false_ne_true, List.find?_cons_of_neg (by simp [hp]), ih]

/-- A search that passes over such rows finds what it found before. -/
theorem find?_upsert_of_disjoint (t : Table α) {p q : α → Bool}
    (h : ∀ r, p r = true → q r = false) (hr : p r = true) :
    (t.upsert p r).find? q = t.find? q := by
  induction t with
  | nil => exact List.find?_cons_of_neg (by simp [h r hr])
  | cons r' t ih =>
    rw [upsert_cons]
    cases hp : p r' with
    | true =>
      rw [if_pos rfl, List.find?_cons_of_neg (by simp [h r hr]),
        List.find?_cons_of_neg (by simp [h r' hp])]
    | false => rw [if_neg Bool.false_ne_true, List.find?_cons, List.find?_cons, ih]

@[simp] theorem getElem?_updateWhere (t : Table α) (p : α → Bool) (f : α → α) (i : ℕ) :
    (t.updateWhere p f)[i]? = t[i]?.map fun r => if p r then f r else r := by
  simp [updateWhere]

@[simp] theorem length_updateWhere (t : Table α) (p : α → Bool) (f : α → α) :
    (t.updateWhere p f).length = t.length := by simp [updateWhere]

@[simp] theorem length_insert (t : Table α) (r : α) : (t.insert r).length = t.length + 1 := by
  simp [insert]

/-- What holds of the rows of a table and of the inserted row. -/
theorem forall_mem_insert {q : α → Prop} :
    (∀ r' ∈ t.insert r, q r') ↔ (∀ r' ∈ t, q r') ∧ q r := by
  simp only [insert, List.forall_mem_append, List.forall_mem_singleton]

/-- What a rewrite does not touch still holds of every row. -/
theorem forall_mem_modify {q : α → Prop} (h : ∀ r ∈ t, q r) (i : ℕ)
    (hf : ∀ r, q r → q (f r)) : ∀ r ∈ t.modify i f, q r := by
  intro r hr
  obtain ⟨k, hk⟩ := List.mem_iff_getElem?.1 hr
  rw [List.getElem?_modify] at hk
  obtain ⟨r', hr', hrow⟩ := Option.map_eq_some_iff.1 hk
  have hold : q r' := h r' (List.mem_of_getElem? hr')
  by_cases hik : i = k
  · rw [if_pos hik] at hrow
    exact hrow ▸ hf r' hold
  rw [if_neg hik] at hrow
  exact hrow ▸ hold

/-- Some row satisfies `P` after an edit: one of the others, or the edited one. -/
theorem exists_mem_modify {old : α} (hold : t[i]? = some old)
    {P : α → Prop} :
    (∃ r ∈ t.modify i f, P r) ↔ (∃ k r, k ≠ i ∧ t[k]? = some r ∧ P r) ∨ P (f old) := by
  simp only [List.mem_iff_getElem?, List.getElem?_modify]
  constructor
  · rintro ⟨r, ⟨k, hk⟩, hP⟩
    by_cases hik : i = k
    · subst hik
      rw [hold] at hk
      obtain rfl : f old = r := by simpa using hk
      exact Or.inr hP
    simp only [if_neg hik, id_map'] at hk
    exact Or.inl ⟨k, r, Ne.symm hik, hk, hP⟩
  rintro (⟨k, r, hki, hk, hP⟩ | hP)
  · exact ⟨r, ⟨k, by simp [Ne.symm hki, hk]⟩, hP⟩
  · exact ⟨f old, ⟨i, by simp [hold]⟩, hP⟩

/-- A column that an edit keeps. -/
theorem map_modify {g : α → β} (h : ∀ r, g (f r) = g r) (t : Table α)
    (i : ℕ) : (t.modify i f).map g = t.map g := by
  refine List.ext_getElem? fun k => ?_
  rw [List.getElem?_map, List.getElem?_map, List.getElem?_modify]
  cases t[k]? with
  | none => rfl
  | some r => by_cases hk : i = k <;> simp [hk, h]

/-- Reading a table after an insertion. -/
theorem getElem?_insert (t : Table α) (r : α) (i : ℕ) :
    (t.insert r)[i]? = if i = t.nextId then some r else t[i]? := by
  rw [insert, List.getElem?_append, nextId]
  rcases Nat.lt_trichotomy i t.length with h | h | h
  · rw [if_pos h, if_neg (by omega)]
  · subst h; simp
  rw [if_neg (by omega), if_neg (by omega), List.getElem?_eq_none (by simp; omega),
    List.getElem?_eq_none (by omega)]

/-- Rewriting the rows a query selected is rewriting the rows that satisfy it. -/
theorem updateIds_select (t : Table α) (p : α → Bool) (f : α → α) :
    t.updateIds (t.select p) f = t.updateWhere p f := by
  apply List.ext_getElem?
  intro i
  rw [getElem?_updateWhere, updateIds, List.getElem?_mapIdx]
  cases hrow : t[i]? with
  | none => rfl
  | some r =>
    have hmem : i ∈ t.select p ↔ p r = true := by
      rw [mem_select, hrow]
      simp
    simp [hmem]

/-! ## Sums -/

@[simp] theorem total_nil (p : α → Bool) (w : α → ℤ) : total [] p w = 0 := rfl

theorem total_cons (r : α) (t : Table α) (p : α → Bool) (w : α → ℤ) :
    total (r :: t) p w = (if p r then w r else 0) + total t p w := by
  unfold total
  rw [List.filter_cons]
  split <;> simp

theorem total_insert (t : Table α) (r : α) (p : α → Bool) (w : α → ℤ) :
    (t.insert r).total p w = t.total p w + if p r then w r else 0 := by
  unfold total insert
  rw [List.filter_append, List.map_append, List.sum_append, List.filter_cons]
  split <;> simp

/-- A row that is rewritten takes its old share out of the sum and puts its new one in. -/
theorem total_modify (hr : t[i]? = some r) (f : α → α)
    (p : α → Bool) (w : α → ℤ) :
    total (t.modify i f) p w
      = t.total p w - (if p r then w r else 0) + if p (f r) then w (f r) else 0 := by
  induction t generalizing i with
  | nil => cases hr
  | cons r' t ih =>
    cases i with
    | zero =>
      cases hr
      rw [List.modify_zero_cons, total_cons, total_cons]
      omega
    | succ i =>
      rw [List.modify_succ_cons, total_cons, total_cons, ih hr]
      omega

/-- A sum of shares that are not negative is not negative. -/
theorem total_nonneg {w : α → ℤ}
    (h : ∀ r ∈ t, p r = true → 0 ≤ w r) : 0 ≤ t.total p w := by
  refine List.sum_nonneg fun share hshare => ?_
  obtain ⟨r, hr, rfl⟩ := List.mem_map.1 hshare
  obtain ⟨hmem, hp⟩ := List.mem_filter.1 hr
  exact h r hmem hp

/-- No row has a share. -/
theorem total_eq_zero {w : α → ℤ} (h : ∀ r ∈ t, p r = false) :
    t.total p w = 0 := by
  have hnone : t.filter p = [] := by
    rw [List.filter_eq_nil_iff]
    intro r hr
    rw [h r hr]
    exact Bool.false_ne_true
  rw [total, hnone]
  rfl

/-- What `f` adds up to over the rows and their ids. -/
def sumIdx (t : Table α) (f : ℕ → α → ℤ) : ℤ := (t.mapIdx f).sum

theorem sumIdx_cons (r : α) (t : Table α) (f : ℕ → α → ℤ) :
    sumIdx (r :: t) f = f 0 r + sumIdx t fun i => f (i + 1) := by
  simp [sumIdx, List.mapIdx_cons]

theorem total_eq_sumIdx (t : Table α) (p : α → Bool) (w : α → ℤ) :
    t.total p w = t.sumIdx fun _ r => if p r then w r else 0 := by
  induction t with
  | nil => rfl
  | cons r t ih => rw [total_cons, sumIdx_cons, ih]

theorem sumIdx_congr {f g : ℕ → α → ℤ}
    (h : ∀ i r, t[i]? = some r → f i r = g i r) : t.sumIdx f = t.sumIdx g := by
  induction t generalizing f g with
  | nil => rfl
  | cons r t ih =>
    rw [sumIdx_cons, sumIdx_cons, h 0 r (by simp), ih fun i r' hr' => h (i + 1) r' (by simpa)]

/-- Two sums that differ in one row at most are equal exactly when they agree there. -/
theorem sumIdx_eq_iff {f g : ℕ → α → ℤ} (j : ℕ)
    (h : ∀ i r, i ≠ j → t[i]? = some r → f i r = g i r) :
    t.sumIdx f = t.sumIdx g ↔ ∀ r ∈ t[j]?, f j r = g j r := by
  induction t generalizing f g j with
  | nil => simp [sumIdx]
  | cons r t ih =>
    rw [sumIdx_cons, sumIdx_cons]
    cases j with
    | zero =>
      have htail : (sumIdx t fun i => f (i + 1)) = sumIdx t fun i => g (i + 1) :=
        sumIdx_congr fun i r' hr' => h (i + 1) r' (by omega) (by simpa)
      rw [htail]
      simp
    | succ j =>
      have hhead : f 0 r = g 0 r := h 0 r (by omega) (by simp)
      have htail := ih (f := fun i => f (i + 1)) (g := fun i => g (i + 1)) j
        fun i r' hi hr' => h (i + 1) r' (by omega) (by simpa)
      rw [hhead, add_right_inj, htail, List.getElem?_cons_succ]

end Table
end MultiAcademy.Lib
