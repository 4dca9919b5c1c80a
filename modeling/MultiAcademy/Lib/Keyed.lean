import Mathlib

/-!
# Tables with a primary key

The rows of a table under a key that no two of them share.  An insert of a key that is in use
is refused; an update leaves the keys alone; a delete takes rows out.
-/

namespace MultiAcademy.Lib

universe u v
variable {ρ : Type u} {κ : Type v}

/-- Rows with distinct keys. -/
structure Keyed (key : ρ → κ) where
  rows : List ρ
  nodup : (rows.map key).Nodup

namespace Keyed
variable {key : ρ → κ}

/-- The table without rows. -/
def empty : Keyed key := ⟨[], List.nodup_nil⟩

variable {p : ρ → Bool} {f : ρ → ρ}

theorem map_key_updated (hf : ∀ r, key (f r) = key r)
    (rows : List ρ) : (rows.map fun r => if p r then f r else r).map key = rows.map key := by
  rw [List.map_map]
  refine List.map_congr_left fun r _ => ?_
  cases hp : p r <;> simp [hp, hf]

/-- Rewrite the rows that satisfy `p`, keeping their keys. -/
def updateWhere (t : Keyed key) (p : ρ → Bool) (f : ρ → ρ) (hf : ∀ r, key (f r) = key r) :
    Keyed key where
  rows := t.rows.map fun r => if p r then f r else r
  nodup := by
    rw [map_key_updated hf]
    exact t.nodup

/-- Delete the rows that satisfy `p`. -/
def deleteWhere (t : Keyed key) (p : ρ → Bool) : Keyed key where
  rows := t.rows.filter fun r => !p r
  nodup := t.nodup.sublist (List.filter_sublist.map key)

/-- An update that changes none of its rows changes nothing. -/
theorem updateWhere_eq_self_of_fixed {t : Keyed key} {p : ρ → Bool} {f : ρ → ρ}
    {hf : ∀ r, key (f r) = key r} (h : ∀ r ∈ t.rows, p r = true → f r = r) :
    t.updateWhere p f hf = t := by
  obtain ⟨rows, hnodup⟩ := t
  have hrows : (rows.map fun r => if p r then f r else r) = rows := by
    conv_rhs => rw [← List.map_id rows]
    refine List.map_congr_left fun r hr => ?_
    split
    · exact h r hr ‹_›
    · rfl
  simp only [updateWhere, hrows]

/-- An update of no row changes nothing. -/
theorem updateWhere_eq_self {t : Keyed key} {p : ρ → Bool} {f : ρ → ρ}
    {hf : ∀ r, key (f r) = key r} (h : ∀ r ∈ t.rows, p r = false) : t.updateWhere p f hf = t :=
  updateWhere_eq_self_of_fixed fun r hr hp => absurd hp (by simp [h r hr])

variable [DecidableEq κ]

/-- Append a row, unless its key is in use. -/
def insert? (t : Keyed key) (r : ρ) : Option (Keyed key) :=
  if h : key r ∈ t.rows.map key then none
  else
    some
      { rows := t.rows ++ [r]
        nodup := by
          rw [List.map_append, List.map_singleton]
          exact List.nodup_append.2 ⟨t.nodup, List.nodup_singleton _, fun a ha b hb hab =>
            h (List.mem_singleton.1 hb ▸ hab ▸ ha)⟩ }

/-- Write a row in the place of the one with its key, if there is one. -/
def put (t : Keyed key) (r : ρ) : Keyed key where
  rows := (t.rows.filter fun r' => key r' ≠ key r) ++ [r]
  nodup := by
    rw [List.map_append, List.map_singleton]
    refine List.nodup_append.2
      ⟨t.nodup.sublist (List.filter_sublist.map key), List.nodup_singleton _, ?_⟩
    intro a ha b hb hab
    obtain ⟨r', hr', rfl⟩ := List.mem_map.1 ha
    rw [List.mem_singleton.1 hb] at hab
    exact of_decide_eq_true (List.mem_filter.1 hr').2 hab

/-- The row of a key. -/
def find? (t : Keyed key) (k : κ) : Option ρ := t.rows.find? fun r => key r = k

variable {t t' : Keyed key} {r r' : ρ} {k : κ}

omit [DecidableEq κ] in
@[simp] theorem rows_empty : (empty : Keyed key).rows = [] := rfl

omit [DecidableEq κ] in
/-- A key belongs to one row. -/
theorem eq_of_key (hr : r ∈ t.rows) (hr' : r' ∈ t.rows) (h : key r = key r') : r = r' :=
  List.inj_on_of_nodup_map t.nodup hr hr' h

omit [DecidableEq κ] in
theorem rows_nodup : t.rows.Nodup := List.Nodup.of_map key t.nodup

omit [DecidableEq κ] in
/-- Two lists of rows with the same keys are the same. -/
theorem eq_of_map_key_eq (t : Keyed key) {l l' : List ρ} (hl : ∀ r ∈ l, r ∈ t.rows)
    (hl' : ∀ r ∈ l', r ∈ t.rows) (h : l.map key = l'.map key) : l = l' := by
  induction l generalizing l' with
  | nil => exact (List.map_eq_nil_iff.1 h.symm).symm
  | cons r rest ih =>
    cases l' with
    | nil => cases h
    | cons r' rest' =>
      rw [List.map_cons, List.map_cons, List.cons.injEq] at h
      rw [List.forall_mem_cons] at hl hl'
      rw [eq_of_key hl.1 hl'.1 h.1, ih hl.2 hl'.2 h.2]

theorem find?_eq_some : t.find? k = some r ↔ r ∈ t.rows ∧ key r = k := by
  constructor
  · intro h
    have hkey := List.find?_some h
    exact ⟨List.mem_of_find?_eq_some h, of_decide_eq_true hkey⟩
  rintro ⟨hr, hk⟩
  cases hfind : t.find? k with
  | none => exact absurd (List.find?_eq_none.1 hfind r hr) (by simp [hk])
  | some r' =>
    have hkey := List.find?_some hfind
    have hr' := List.mem_of_find?_eq_some hfind
    rw [eq_of_key hr' hr ((of_decide_eq_true hkey).trans hk.symm)]

theorem find?_eq_none : t.find? k = none ↔ ∀ r ∈ t.rows, key r ≠ k := by
  simp [find?]

omit [DecidableEq κ] in
@[simp] theorem mem_updateWhere (hf : ∀ r, key (f r) = key r) :
    r ∈ (t.updateWhere p f hf).rows ↔ ∃ r' ∈ t.rows, (if p r' then f r' else r') = r :=
  List.mem_map

omit [DecidableEq κ] in
/-- What is true of some row after an update. -/
theorem exists_updateWhere {hf : ∀ r, key (f r) = key r}
    {P : ρ → Prop} :
    (∃ r ∈ (t.updateWhere p f hf).rows, P r) ↔ ∃ r ∈ t.rows, P (if p r then f r else r) := by
  simp

omit [DecidableEq κ] in
@[simp] theorem mem_deleteWhere :
    r ∈ (t.deleteWhere p).rows ↔ r ∈ t.rows ∧ p r = false := by
  simp [deleteWhere]

omit [DecidableEq κ] in
/-- A row survives an update under its key. -/
theorem exists_key_updateWhere (hf : ∀ r, key (f r) = key r)
    (hr : r ∈ t.rows) : ∃ r' ∈ (t.updateWhere p f hf).rows, key r' = key r := by
  rw [exists_updateWhere]
  refine ⟨r, hr, ?_⟩
  split
  · exact hf r
  · rfl

omit [DecidableEq κ] in
/-- What is true of some row after a delete. -/
theorem exists_deleteWhere {P : ρ → Prop} :
    (∃ r ∈ (t.deleteWhere p).rows, P r) ↔ ∃ r ∈ t.rows, p r = false ∧ P r := by
  simp [and_assoc]

/-- The row of a key after an update. -/
theorem find?_updateWhere (hf : ∀ r, key (f r) = key r) :
    (t.updateWhere p f hf).find? k = (t.find? k).map fun r => if p r then f r else r := by
  simp only [find?, updateWhere, List.find?_map]
  congr 1
  apply congrArg (List.find? · t.rows)
  funext r
  simp only [Function.comp_apply]
  split
  · rw [hf]
  · rfl

/-- The row of a key after a delete. -/
theorem find?_deleteWhere :
    (t.deleteWhere p).find? k = (t.find? k).filter fun r => !p r := by
  apply Option.ext
  intro r
  rw [find?_eq_some, mem_deleteWhere, Option.filter_eq_some_iff, find?_eq_some,
    Bool.not_eq_true']
  exact and_right_comm

/-- How many rows have a property after the row of one key was rewritten. -/
theorem countP_updateWhere (hf : ∀ r, key (f r) = key r)
    (hr : t.find? k = some r) :
    (t.updateWhere (fun r => key r = k) f hf).rows.countP p + (if p r then 1 else 0)
      = t.rows.countP p + if p (f r) then 1 else 0 := by
  obtain ⟨hmem, rfl⟩ := find?_eq_some.1 hr
  obtain ⟨rows, hnodup⟩ := t
  simp only [updateWhere, decide_eq_true_eq] at hmem ⊢
  clear hr
  induction rows with
  | nil => cases hmem
  | cons r' rows ih =>
    rw [List.map_cons, List.nodup_cons] at hnodup
    rw [List.map_cons, List.countP_cons, List.countP_cons]
    rcases List.mem_cons.1 hmem with heq | htail
    · subst heq
      -- no other row has this key
      have hrest : (rows.map fun r' => if key r' = key r then f r' else r') = rows := by
        conv_rhs => rw [← List.map_id rows]
        refine List.map_congr_left fun r' hr' => ?_
        rw [if_neg fun hk => hnodup.1 (List.mem_map.2 ⟨r', hr', hk⟩), id]
      rw [hrest, if_pos rfl]
      omega
    have hother : key r' ≠ key r := fun hk =>
      hnodup.1 (hk ▸ List.mem_map.2 ⟨r, htail, rfl⟩)
    have hcount := ih hnodup.2 htail
    rw [if_neg hother]
    omega

/-- An update keeps the keys in use. -/
theorem find?_updateWhere_eq_none (hf : ∀ r, key (f r) = key r) :
    (t.updateWhere p f hf).find? k = none ↔ t.find? k = none := by
  have hkeys : ∀ t : Keyed key, t.find? k = none ↔ k ∉ t.rows.map key := by
    intro t
    rw [find?_eq_none, List.mem_map]
    exact ⟨fun h ⟨r, hr, hk⟩ => h r hr hk, fun h r hr hk => h ⟨r, hr, hk⟩⟩
  rw [hkeys, hkeys, updateWhere, map_key_updated hf]

/-- A row is inserted when its key is new. -/
theorem insert?_eq_some (h : t.insert? r = some t') :
    t.find? (key r) = none ∧ ∀ r', r' ∈ t'.rows ↔ r' ∈ t.rows ∨ r' = r := by
  unfold insert? at h
  split at h
  · cases h
  rename_i hnew
  cases h
  refine ⟨find?_eq_none.2 fun r' hr' hk => hnew (List.mem_map.2 ⟨r', hr', hk⟩), fun r' => ?_⟩
  simp

theorem rows_insert? (h : t.insert? r = some t') : t'.rows = t.rows ++ [r] := by
  unfold insert? at h
  split at h
  · cases h
  cases h
  rfl

/-- The row of a key after an insert. -/
theorem find?_insert? (h : t.insert? r = some t') :
    t'.find? k = if key r = k then some r else t.find? k := by
  obtain ⟨hnew, -⟩ := insert?_eq_some h
  rw [find?, rows_insert? h, List.find?_append]
  split
  · rename_i hk
    have hnone : t.rows.find? (fun r => key r = k) = none := hk ▸ hnew
    rw [hnone]
    simp [hk]
  rename_i hk
  simp [find?, hk]

@[simp] theorem mem_put : r' ∈ (t.put r).rows ↔ r' ∈ t.rows ∧ key r' ≠ key r ∨ r' = r := by
  simp [put]

/-- The row of a key after a row was put. -/
theorem find?_put : (t.put r).find? k = if key r = k then some r else t.find? k := by
  split
  · rename_i hk
    exact find?_eq_some.2 ⟨mem_put.2 (Or.inr rfl), hk⟩
  rename_i hk
  cases hfind : t.find? k with
  | none =>
    refine find?_eq_none.2 fun r' hr' => ?_
    rcases mem_put.1 hr' with ⟨hold, -⟩ | rfl
    · exact find?_eq_none.1 hfind r' hold
    · exact hk
  | some r' =>
    obtain ⟨hr', hkey⟩ := find?_eq_some.1 hfind
    exact find?_eq_some.2 ⟨mem_put.2 (Or.inl ⟨hr', fun h => hk (h.symm.trans hkey)⟩), hkey⟩

theorem insert?_eq_none (h : t.insert? r = none) : t.find? (key r) ≠ none := by
  unfold insert? at h
  split at h
  · rename_i hused
    obtain ⟨r', hr', hk⟩ := List.mem_map.1 hused
    exact fun hnone => find?_eq_none.1 hnone r' hr' hk
  · cases h

omit [DecidableEq κ] in
/-- A condition that is the same for every row in question is one on the question. -/
theorem exists_and_iff {P Q F : ρ → Prop} {q : Prop} (h : ∀ r, P r → (Q r ↔ q)) :
    (∃ r ∈ t.rows, Q r ∧ P r ∧ F r) ↔ q ∧ ∃ r ∈ t.rows, P r ∧ F r := by
  constructor
  · rintro ⟨r, hr, hQ, hP, hF⟩
    exact ⟨(h r hP).1 hQ, r, hr, hP, hF⟩
  rintro ⟨hq, r, hr, hP, hF⟩
  exact ⟨r, hr, (h r hP).2 hq, hP, hF⟩

/-! ## A flag on the rows -/

section Flag
variable {flag : ρ → Bool} {P : ρ → Prop}

omit [DecidableEq κ] in
/-- No row has a flag that was cleared everywhere. -/
theorem not_exists_flagged {f : ρ → ρ} (hf : ∀ r, key (f r) = key r)
    (hflag : ∀ r, flag (f r) = false) :
    ¬ ∃ r ∈ (t.updateWhere (fun _ => true) f hf).rows, P r ∧ flag r = true := by
  simp [hflag]

/-- The flagged rows after the flag of one key was cleared. -/
theorem exists_flagged_cleared {f : ρ → ρ} (hf : ∀ r, key (f r) = key r := by intro _; rfl)
    (hflag : ∀ r, flag (f r) = false := by intro _; rfl) :
    (∃ r ∈ (t.updateWhere (fun r => key r = k) f hf).rows, P r ∧ flag r = true)
      ↔ ∃ r ∈ t.rows, key r ≠ k ∧ P r ∧ flag r = true := by
  rw [exists_updateWhere]
  refine exists_congr fun r => and_congr_right fun _ => ?_
  by_cases hk : key r = k <;> simp [hk, hflag]

/-- The flagged row after the flags of the other keys, at least, were cleared and the flag of
one key was set. -/
theorem exists_flagged_single {p : ρ → Bool} {clear set : ρ → ρ}
    (hp : ∀ r, key r ≠ k → p r = true) (hr : r ∈ t.rows) (hk : key r = k)
    (hclear : ∀ r, key (clear r) = key r := by intro _; rfl)
    (hset : ∀ r, key (set r) = key r := by intro _; rfl)
    (hcleared : ∀ r, flag (clear r) = false := by intro _; rfl)
    (hflag : ∀ r, flag (set r) = true := by intro _; rfl) :
    (∃ r' ∈ ((t.updateWhere p clear hclear).updateWhere (fun r => key r = k) set hset).rows,
        P r' ∧ flag r' = true)
      ↔ P (set (if p r then clear r else r)) := by
  have hkey : ∀ r', key (if p r' then clear r' else r') = key r' := by
    intro r'
    cases p r' <;> simp [hclear]
  simp only [exists_updateWhere, hkey, decide_eq_true_eq]
  constructor
  · rintro ⟨r', hr', hP, hcur⟩
    by_cases hk' : key r' = k
    · rw [eq_of_key hr hr' (hk.trans hk'.symm)]
      simpa [hk'] using hP
    · simp [hk', hp r' hk', hcleared] at hcur
  intro hP
  exact ⟨r, hr, by simpa [hk] using hP, by simp [hk, hflag]⟩

/-- What the flagged rows are after an insert, if it was not refused. -/
theorem exists_flagged_insert (h : t.insert? r = some t') :
    (∃ r' ∈ t'.rows, P r' ∧ flag r' = true)
      ↔ (∃ r' ∈ t.rows, P r' ∧ flag r' = true) ∨ (P r ∧ flag r = true) := by
  simp only [(insert?_eq_some h).2]
  constructor
  · rintro ⟨r', hr' | rfl, hP⟩
    · exact Or.inl ⟨r', hr', hP⟩
    · exact Or.inr hP
  rintro (⟨r', hr', hP⟩ | hP)
  · exact ⟨r', Or.inl hr', hP⟩
  · exact ⟨r, Or.inr rfl, hP⟩

end Flag

end Keyed
end MultiAcademy.Lib
