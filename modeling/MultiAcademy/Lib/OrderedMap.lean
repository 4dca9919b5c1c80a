import Mathlib

/-!
# Dictionaries that remember the order of insertion

A Python `dict` and a JavaScript `Map`: the keys are kept in the order of their first
insertion, a value stored under a key that is there keeps the key's place, and a key that
was deleted comes back at the end.  The order decides which entries a bounded cache drops.
-/

namespace MultiAcademy.Lib

universe u v

/-- Entries in the order of insertion, with distinct keys. -/
structure OrderedMap (κ : Type u) (α : Type v) where
  entries : List (κ × α)
  nodup : (entries.map Prod.fst).Nodup

namespace OrderedMap
variable {κ : Type u} {α : Type v}

/-- The dictionary without entries. -/
def empty : OrderedMap κ α := ⟨[], List.nodup_nil⟩

/-- The number of entries. -/
def size (m : OrderedMap κ α) : ℕ := m.entries.length

/-- Delete the first `n` entries. -/
def drop (m : OrderedMap κ α) (n : ℕ) : OrderedMap κ α :=
  ⟨m.entries.drop n, m.nodup.sublist ((List.drop_sublist n m.entries).map _)⟩

@[simp] theorem entries_empty : (empty : OrderedMap κ α).entries = [] := rfl

@[simp] theorem entries_drop (m : OrderedMap κ α) (n : ℕ) :
    (m.drop n).entries = m.entries.drop n := rfl

variable [DecidableEq κ]

/-- The value under a key. -/
def get? (m : OrderedMap κ α) (k : κ) : Option α :=
  (m.entries.find? fun e => e.1 = k).map Prod.snd

/-- The entries once `v` is stored under `k`. -/
def setEntries (k : κ) (v : α) (entries : List (κ × α)) : List (κ × α) :=
  if entries.any fun e => e.1 = k then entries.map fun e => if e.1 = k then (k, v) else e
  else entries ++ [(k, v)]

theorem nodup_setEntries (k : κ) (v : α) {entries : List (κ × α)}
    (h : (entries.map Prod.fst).Nodup) : ((setEntries k v entries).map Prod.fst).Nodup := by
  unfold setEntries
  split
  · have hkeys : (entries.map fun e => if e.1 = k then (k, v) else e).map Prod.fst
        = entries.map Prod.fst := by
      rw [List.map_map]
      refine List.map_congr_left ?_
      intro e _
      by_cases he : e.1 = k <;> simp [he]
    rw [hkeys]
    exact h
  rename_i hnone
  rw [List.map_append, List.map_singleton, List.nodup_append]
  refine ⟨h, List.nodup_singleton k, ?_⟩
  intro a ha b hb hab
  rw [List.mem_singleton.1 hb] at hab
  obtain ⟨e, he, hek⟩ := List.mem_map.1 ha
  exact hnone (List.any_eq_true.2 ⟨e, he, by simp [hek, hab]⟩)

/-- Store a value under a key. -/
def set (m : OrderedMap κ α) (k : κ) (v : α) : OrderedMap κ α :=
  ⟨setEntries k v m.entries, nodup_setEntries k v m.nodup⟩

/-- Delete a key. -/
def erase (m : OrderedMap κ α) (k : κ) : OrderedMap κ α :=
  ⟨m.entries.filter fun e => e.1 ≠ k,
    m.nodup.sublist (List.filter_sublist.map _)⟩

/-- Delete the keys that satisfy `p`. -/
def removeWhere (m : OrderedMap κ α) (p : κ → Bool) : OrderedMap κ α :=
  ⟨m.entries.filter fun e => !p e.1, m.nodup.sublist (List.filter_sublist.map _)⟩

/-! ## What is under a key -/

@[simp] theorem get?_empty (k : κ) : (empty : OrderedMap κ α).get? k = none := rfl

theorem get?_eq_some {m : OrderedMap κ α} {k : κ} {v : α} :
    m.get? k = some v ↔ (k, v) ∈ m.entries := by
  unfold get?
  constructor
  · intro h
    obtain ⟨e, hfind, rfl⟩ := Option.map_eq_some_iff.1 h
    have hkey := List.find?_some hfind
    rw [← of_decide_eq_true hkey]
    exact List.mem_of_find?_eq_some hfind
  intro hmem
  cases hfind : m.entries.find? fun e => e.1 = k with
  | none => simpa using List.find?_eq_none.1 hfind (k, v) hmem
  | some e =>
    -- keys are distinct, so it is the same entry
    have hkey := List.find?_some hfind
    have heq := List.inj_on_of_nodup_map m.nodup (List.mem_of_find?_eq_some hfind) hmem
      (of_decide_eq_true hkey)
    rw [heq]
    rfl

/-- A key that is there has a value. -/
theorem mem_keys_iff {m : OrderedMap κ α} {k : κ} :
    k ∈ m.entries.map Prod.fst ↔ (m.get? k).isSome = true := by
  rw [Option.isSome_iff_exists, List.mem_map]
  constructor
  · rintro ⟨e, he, rfl⟩
    exact ⟨e.2, get?_eq_some.2 he⟩
  rintro ⟨v, hv⟩
  exact ⟨(k, v), get?_eq_some.1 hv, rfl⟩

theorem mem_setEntries {entries : List (κ × α)} {k : κ} {v : α} {e : κ × α} :
    e ∈ setEntries k v entries ↔ e = (k, v) ∨ (e.1 ≠ k ∧ e ∈ entries) := by
  unfold setEntries
  split
  · rename_i hsome
    obtain ⟨old, hold, hkey⟩ := List.any_eq_true.1 hsome
    rw [List.mem_map]
    constructor
    · rintro ⟨e', he', rfl⟩
      by_cases he : e'.1 = k
      · simp [he]
      · simp [he, he']
    rintro (rfl | ⟨hne, he⟩)
    · exact ⟨old, hold, by simp [of_decide_eq_true hkey]⟩
    · exact ⟨e, he, by simp [hne]⟩
  rename_i hnone
  rw [List.mem_append, List.mem_singleton]
  constructor
  · rintro (he | rfl)
    · refine Or.inr ⟨fun hkey => hnone (List.any_eq_true.2 ⟨e, he, by simp [hkey]⟩), he⟩
    · exact Or.inl rfl
  rintro (rfl | ⟨-, he⟩)
  · exact Or.inr rfl
  · exact Or.inl he

theorem mem_set {m : OrderedMap κ α} {k : κ} {v : α} {e : κ × α} :
    e ∈ (m.set k v).entries ↔ e = (k, v) ∨ (e.1 ≠ k ∧ e ∈ m.entries) := mem_setEntries

theorem get?_set (m : OrderedMap κ α) (k k' : κ) (v : α) :
    (m.set k v).get? k' = if k' = k then some v else m.get? k' := by
  apply Option.ext
  intro w
  rw [get?_eq_some, mem_set]
  by_cases hk : k' = k
  · simp [hk, eq_comm]
  · simp [hk, get?_eq_some]

theorem get?_erase (m : OrderedMap κ α) (k k' : κ) :
    (m.erase k).get? k' = if k' = k then none else m.get? k' := by
  apply Option.ext
  intro w
  rw [get?_eq_some, erase, List.mem_filter]
  by_cases hk : k' = k
  · simp [hk]
  · simp [hk, get?_eq_some]

theorem get?_removeWhere (m : OrderedMap κ α) (p : κ → Bool) (k : κ) :
    (m.removeWhere p).get? k = if p k then none else m.get? k := by
  apply Option.ext
  intro w
  rw [get?_eq_some, removeWhere, List.mem_filter]
  by_cases hk : p k = true
  · simp [hk]
  · simp [hk, get?_eq_some]

/-! ## Dictionaries of rows -/

section Rows
variable {ρ : Type*} (key : ρ → κ) (value : ρ → α)

/-- Store the value of each row under its key, in turn. -/
def setRows (rows : List ρ) (m : OrderedMap κ α) : OrderedMap κ α :=
  rows.foldl (fun m r => m.set (key r) (value r)) m

/-- The last row of a key decides. -/
theorem get?_setRows (rows : List ρ) (m : OrderedMap κ α) (k : κ) :
    (setRows key value rows m).get? k
      = ((rows.reverse.find? fun r => key r = k).map value).or (m.get? k) := by
  induction rows generalizing m with
  | nil => rfl
  | cons r rows ih =>
    rw [setRows, List.foldl_cons]
    change (setRows key value rows _).get? k = _
    rw [ih, get?_set, List.reverse_cons, List.find?_append]
    cases rows.reverse.find? fun r => key r = k with
    | some r' => rfl
    | none =>
      by_cases hk : key r = k
      · simp [hk]
      have hk' : k ≠ key r := fun h => hk h.symm
      simp [hk, hk']

/-- Under distinct keys every row is found. -/
theorem get?_setRows_of_mem {rows : List ρ} (hkeys : (rows.map key).Nodup) {r : ρ}
    (hr : r ∈ rows) (m : OrderedMap κ α) :
    (setRows key value rows m).get? (key r) = some (value r) := by
  rw [get?_setRows]
  cases hfind : rows.reverse.find? fun r' => key r' = key r with
  | none => simpa using List.find?_eq_none.1 hfind r (List.mem_reverse.2 hr)
  | some r' =>
    have hkey := List.find?_some hfind
    have hmem := List.mem_reverse.1 (List.mem_of_find?_eq_some hfind)
    rw [List.inj_on_of_nodup_map hkeys hmem hr (of_decide_eq_true hkey)]
    rfl

end Rows

/-! ## How large it is -/

/-- A value is stored in place, or at the end. -/
theorem set_cases (m : OrderedMap κ α) (k : κ) (v : α) :
    (m.set k v).size = m.size ∨ (m.set k v).entries = m.entries ++ [(k, v)] := by
  unfold set size setEntries
  split
  · exact Or.inl (List.length_map _)
  · exact Or.inr rfl

theorem size_set (m : OrderedMap κ α) (k : κ) (v : α) :
    (m.set k v).size = if (m.get? k).isSome then m.size else m.size + 1 := by
  have hkey : (m.entries.any fun e => e.1 = k) = (m.get? k).isSome := by
    apply Bool.eq_iff_iff.2
    rw [get?, Option.isSome_map, List.find?_isSome, List.any_eq_true]
  simp only [size, set, setEntries, hkey]
  split
  · exact List.length_map _
  · exact List.length_append

/-- Deleting a key that is there leaves one entry less. -/
theorem size_erase {m : OrderedMap κ α} {k : κ} (h : (m.get? k).isSome) :
    (m.erase k).size + 1 = m.size := by
  have hone : m.entries.countP (fun e => e.1 = k) = 1 := by
    have hcount := List.count_eq_one_of_mem m.nodup (mem_keys_iff.2 h)
    rw [List.count, List.countP_map] at hcount
    rw [← hcount]
    exact List.countP_congr fun e _ => by simp
  have hsplit := List.length_eq_countP_add_countP (fun e : κ × α => decide (e.1 = k))
    (l := m.entries)
  rw [hone] at hsplit
  simp only [size, erase, ← List.countP_eq_length_filter]
  simp only [decide_eq_true_eq, ne_eq, decide_not] at hsplit ⊢
  omega

omit [DecidableEq κ] in
theorem size_removeWhere_le (m : OrderedMap κ α) (p : κ → Bool) :
    (m.removeWhere p).size ≤ m.size := List.length_filter_le _ _

theorem size_erase_le (m : OrderedMap κ α) (k : κ) : (m.erase k).size ≤ m.size :=
  List.length_filter_le _ _

/-! ## Stamps

A value carries the stamp its key had when the value was made; `epoch` is the stamp of
each key now.  A cache is current when it holds no value from before. -/

/-- Every entry carries the stamp its key has now. -/
def Current (stamp : α → ℕ) (epoch : κ → ℕ) (m : OrderedMap κ α) : Prop :=
  ∀ k v, m.get? k = some v → stamp v = epoch k

variable {stamp : α → ℕ} {epoch epoch' : κ → ℕ} {m : OrderedMap κ α}

theorem current_empty : (empty : OrderedMap κ α).Current stamp epoch := by
  intro k v h
  cases h

/-- Storing a value keeps a cache current exactly when the value is. -/
theorem current_set_iff (h : m.Current stamp epoch) {k : κ} {v : α} :
    (m.set k v).Current stamp epoch ↔ stamp v = epoch k := by
  constructor
  · intro hset
    exact hset k v (by simp [get?_set])
  intro hv k' w hget
  rw [get?_set] at hget
  by_cases hk : k' = k
  · rw [if_pos hk] at hget
    cases hget
    rw [hk, hv]
  rw [if_neg hk] at hget
  exact h k' w hget

theorem Current.erase (h : m.Current stamp epoch) (k : κ) :
    (m.erase k).Current stamp epoch := by
  intro k' w hget
  rw [get?_erase] at hget
  by_cases hk : k' = k
  · rw [if_pos hk] at hget
    cases hget
  rw [if_neg hk] at hget
  exact h k' w hget

/-- A key that is deleted may move on. -/
theorem Current.erase_of_moved (h : m.Current stamp epoch) {k : κ}
    (hsame : ∀ k', k' ≠ k → epoch' k' = epoch k') : (m.erase k).Current stamp epoch' := by
  intro k' w hget
  rw [get?_erase] at hget
  by_cases hk : k' = k
  · rw [if_pos hk] at hget
    cases hget
  rw [if_neg hk] at hget
  rw [hsame k' hk]
  exact h k' w hget

end OrderedMap
end MultiAcademy.Lib
