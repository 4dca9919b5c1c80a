import MultiAcademy.Lib.Keyed

/-!
# Tables that are read from the newest row

A table whose rows are kept newest first, and a query that looks for a match among the first few
of the rows that it keeps.
-/

namespace MultiAcademy.Lib

universe u v
variable {ρ : Type u} {κ : Type v} [DecidableEq κ]

/-- The first rows of a list all satisfy a condition exactly when they are the first of those
that satisfy it. -/
theorem take_filter_eq_iff {q : ρ → Bool} {rows : List ρ} {n : ℕ} :
    (rows.filter q).take n = rows.take n ↔ ∀ r ∈ rows.take n, q r = true := by
  constructor
  · intro h r hr
    rw [← h] at hr
    exact (List.mem_filter.1 (List.mem_of_mem_take hr)).2
  intro h
  induction rows generalizing n with
  | nil => rfl
  | cons r rows ih =>
    cases n with
    | zero => rfl
    | succ n =>
      rw [List.take_succ_cons] at h
      rw [List.filter_cons_of_pos (h r List.mem_cons_self), List.take_succ_cons,
        List.take_succ_cons, ih fun r' hr' => h r' (List.mem_cons_of_mem r hr')]

namespace Keyed
variable {key : ρ → κ}

/-- Put a row in front, unless its key is in use. -/
def push? (t : Keyed key) (r : ρ) : Option (Keyed key) :=
  if h : key r ∈ t.rows.map key then none
  else some { rows := r :: t.rows, nodup := List.nodup_cons.2 ⟨h, t.nodup⟩ }

/-- The rows in front of the one with the key. -/
def newer (t : Keyed key) (k : κ) : List ρ := t.rows.takeWhile fun r => key r ≠ k

/-- The first `n` rows that are kept. -/
def newest (n : ℕ) (keep : ρ → Bool) (t : Keyed key) : List ρ := (t.rows.filter keep).take n

/-- The first match among the first `n` rows that are kept. -/
def recent? (n : ℕ) (keep hit : ρ → Bool) (t : Keyed key) : Option ρ :=
  ((t.rows.filter keep).take n).find? hit

variable {t t' : Keyed key} {r r' : ρ} {k : κ} {n : ℕ} {keep hit : ρ → Bool}

/-- A row is put in front when its key is new. -/
theorem push?_eq_some (h : t.push? r = some t') :
    (∀ r' ∈ t.rows, key r' ≠ key r) ∧ t'.rows = r :: t.rows := by
  unfold push? at h
  split at h
  · cases h
  rename_i hnew
  cases h
  exact ⟨fun r' hr' hk => hnew (List.mem_map.2 ⟨r', hr', hk⟩), rfl⟩

theorem push?_eq_none (h : t.push? r = none) : ∃ r' ∈ t.rows, key r' = key r := by
  unfold push? at h
  split at h
  · rename_i hused
    exact List.mem_map.1 hused
  · cases h

/-- The row of a key after a row was put in front. -/
theorem find?_push? (h : t.push? r = some t') :
    t'.find? k = if key r = k then some r else t.find? k := by
  rw [find?, (push?_eq_some h).2, List.find?_cons]
  by_cases hk : key r = k
  · simp [hk]
  · simp [hk, find?]

/-- The rows in front of a row, after another was put in front. -/
theorem newer_push? (h : t.push? r = some t') (hk : key r ≠ k) :
    t'.newer k = r :: t.newer k := by
  rw [newer, (push?_eq_some h).2, List.takeWhile_cons_of_pos (by simpa using hk), newer]

theorem newer_push?_self (h : t.push? r = some t') : t'.newer (key r) = [] := by
  rw [newer, (push?_eq_some h).2, List.takeWhile_cons_of_neg (by simp)]

theorem newer_updateWhere {p : ρ → Bool} {f : ρ → ρ} (hf : ∀ r, key (f r) = key r) :
    (t.updateWhere p f hf).newer k = (t.newer k).map fun r => if p r then f r else r := by
  rw [newer, updateWhere, List.takeWhile_map, newer]
  congr 2
  funext r
  have hkey : key (if p r then f r else r) = key r := by
    split
    · exact hf r
    · rfl
  simp only [Function.comp_apply, hkey]

/-- The rows are the ones in front of a row, that row, and the others. -/
theorem rows_eq_newer (hr : r ∈ t.rows) :
    ∃ older, t.rows = t.newer (key r) ++ r :: older := by
  obtain ⟨rows, hnodup⟩ := t
  simp only [newer] at hr ⊢
  induction rows with
  | nil => cases hr
  | cons r' rows ih =>
    rw [List.map_cons, List.nodup_cons] at hnodup
    rcases List.mem_cons.1 hr with heq | htail
    · subst heq
      exact ⟨rows, by simp⟩
    have hother : key r' ≠ key r := fun hk =>
      hnodup.1 (hk ▸ List.mem_map.2 ⟨r, htail, rfl⟩)
    obtain ⟨older, holder⟩ := ih hnodup.2 htail
    refine ⟨older, ?_⟩
    rw [List.takeWhile_cons_of_pos (by simpa using hother), List.cons_append]
    exact congrArg (r' :: ·) holder

/-- **A row is found when no newer one matches, and not too many newer ones are kept.** -/
theorem recent?_eq_some (hr : r ∈ t.rows) (hkeep : keep r = true) (hmatch : hit r = true)
    (hnewer : ∀ r' ∈ t.newer (key r), hit r' = false)
    (hfew : (t.newer (key r)).countP keep < n) : t.recent? n keep hit = some r := by
  obtain ⟨older, holder⟩ := rows_eq_newer hr
  rw [List.countP_eq_length_filter] at hfew
  have hnone : ((t.newer (key r)).filter keep).find? hit = none := by
    rw [List.find?_eq_none]
    intro r' hr'
    rw [hnewer r' (List.mem_of_mem_filter hr')]
    exact Bool.false_ne_true
  obtain ⟨m, hm⟩ : ∃ m, n - ((t.newer (key r)).filter keep).length = m + 1 :=
    ⟨n - ((t.newer (key r)).filter keep).length - 1, by omega⟩
  rw [recent?, holder, List.filter_append, List.filter_cons_of_pos hkeep, List.take_append, hm,
    List.take_succ_cons, List.take_of_length_le (by omega), List.find?_append, hnone,
    List.find?_cons_of_pos hmatch, Option.none_or]

omit [DecidableEq κ] in
/-- What is found is kept, and matches. -/
theorem mem_of_recent? (h : t.recent? n keep hit = some r) :
    r ∈ t.rows ∧ keep r = true ∧ hit r = true := by
  have hmem := List.mem_of_mem_take (List.mem_of_find?_eq_some h)
  have hboth := List.mem_filter.1 hmem
  exact ⟨hboth.1, hboth.2, List.find?_some h⟩

/-! ## The newest rows of a kind -/

/-- **A row is among the newest when few newer ones are kept.** -/
theorem mem_newest :
    r ∈ t.newest n keep
      ↔ r ∈ t.rows ∧ keep r = true ∧ (t.newer (key r)).countP keep < n := by
  rw [List.countP_eq_length_filter]
  constructor
  · intro h
    obtain ⟨hr, hkeep⟩ := List.mem_filter.1 (List.mem_of_mem_take h)
    refine ⟨hr, hkeep, ?_⟩
    obtain ⟨older, holder⟩ := rows_eq_newer hr
    by_contra hmany
    rw [newest, holder, List.filter_append, List.take_append_of_le_length (by omega)] at h
    -- a row in front of it does not have its key
    have hnewer := List.mem_of_mem_filter (List.mem_of_mem_take h)
    have hkey := List.mem_takeWhile_imp hnewer
    simp at hkey
  rintro ⟨hr, hkeep, hfew⟩
  obtain ⟨older, holder⟩ := rows_eq_newer hr
  obtain ⟨m, hm⟩ : ∃ m, n - ((t.newer (key r)).filter keep).length = m + 1 :=
    ⟨n - ((t.newer (key r)).filter keep).length - 1, by omega⟩
  rw [newest, holder, List.filter_append, List.filter_cons_of_pos hkeep, List.take_append, hm,
    List.take_succ_cons]
  exact List.mem_append_right _ List.mem_cons_self

omit [DecidableEq κ] in
/-- Another condition takes none of the newest rows out. -/
theorem newest_filter_iff {q : ρ → Bool} :
    t.newest n (fun r => keep r && q r) = t.newest n keep
      ↔ ∀ r ∈ t.newest n keep, q r = true := by
  have hsplit : t.rows.filter (fun r => keep r && q r) = (t.rows.filter keep).filter q := by
    rw [List.filter_filter]
    simp only [Bool.and_comm]
  rw [newest, newest, hsplit]
  exact take_filter_eq_iff

omit [DecidableEq κ] in
/-- To delete rows that are not among the newest leaves these as they are. -/
theorem newest_deleteWhere {p : ρ → Bool} (h : ∀ r ∈ t.newest n keep, p r = false) :
    (t.deleteWhere p).newest n keep = t.newest n keep := by
  have hsplit : (t.deleteWhere p).rows.filter keep
      = (t.rows.filter keep).filter fun r => !p r := by
    rw [deleteWhere, List.filter_filter, List.filter_filter]
    simp only [Bool.and_comm]
  rw [newest, newest, hsplit]
  refine take_filter_eq_iff.2 fun r hr => ?_
  rw [h r hr]
  rfl

omit [DecidableEq κ] in
/-- An update that keeps the kind of every row rewrites the newest rows in their places. -/
theorem newest_updateWhere {p : ρ → Bool} {f : ρ → ρ} {hf : ∀ r, key (f r) = key r}
    (hkeep : ∀ r ∈ t.rows, p r = true → keep (f r) = keep r) :
    (t.updateWhere p f hf).newest n keep
      = (t.newest n keep).map fun r => if p r then f r else r := by
  rw [newest, newest, List.map_take, updateWhere, List.filter_map]
  congr 2
  refine List.filter_congr fun r hr => ?_
  rw [Function.comp_apply]
  split
  · rename_i hp
    exact hkeep r hr hp
  · rfl

/-- The newest rows after another was put in front. -/
theorem newest_push? (h : t.push? r = some t') :
    t'.newest n keep = if keep r then (r :: t.rows.filter keep).take n else t.newest n keep := by
  rw [newest, (push?_eq_some h).2, List.filter_cons]
  split
  · rfl
  · rfl

end Keyed
end MultiAcademy.Lib
