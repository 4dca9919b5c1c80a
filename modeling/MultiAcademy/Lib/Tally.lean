import MultiAcademy.Lib.OrderedMap

/-!
# Running totals of a log

Entries arrive one at a time, some of them repeats of an entry that is there; a dictionary
keeps, for each key, the total weight of the entries under it.
-/

namespace MultiAcademy.Lib

universe u v
variable {ρ : Type u} {κ : Type v}

/-! ## Logs without repeats -/

/-- Append an entry unless it repeats one that is there. -/
def appendNew (again : ρ → ρ → Bool) (log : List ρ) (r : ρ) : List ρ :=
  if log.any fun old => again old r then log else log ++ [r]

/-- The entries in order of arrival, without the repeats. -/
def firsts (again : ρ → ρ → Bool) (rs : List ρ) : List ρ := rs.foldl (appendNew again) []

variable (again : ρ → ρ → Bool)

theorem firsts_concat (rs : List ρ) (r : ρ) :
    firsts again (rs ++ [r]) = appendNew again (firsts again rs) r := by
  simp [firsts, List.foldl_append]

/-- What a pass over more entries adds: some of them, in order, and none that repeats one
before it. -/
theorem foldl_appendNew (rs log : List ρ) :
    ∃ added, rs.foldl (appendNew again) log = log ++ added ∧ added.Sublist rs
      ∧ (∀ old ∈ log, ∀ new ∈ added, again old new = false)
      ∧ added.Pairwise fun old new => again old new = false := by
  induction rs generalizing log with
  | nil => exact ⟨[], by simp⟩
  | cons r rs ih =>
    rw [List.foldl_cons, appendNew]
    split
    · obtain ⟨added, heq, hsub, hlog, hadded⟩ := ih log
      exact ⟨added, heq, hsub.cons r, hlog, hadded⟩
    rename_i hnone
    have hnew : ∀ old ∈ log, again old r = false := by simpa using hnone
    obtain ⟨added, heq, hsub, hlog, hadded⟩ := ih (log ++ [r])
    refine ⟨r :: added, by rw [heq, List.append_assoc, List.singleton_append],
      hsub.cons_cons r, ?_, ?_⟩
    · intro old hold new hmem
      rcases List.mem_cons.1 hmem with rfl | hmem
      · exact hnew old hold
      · exact hlog old (List.mem_append_left _ hold) new hmem
    refine List.pairwise_cons.2 ⟨fun new hmem => ?_, hadded⟩
    exact hlog r (List.mem_append_right _ List.mem_cons_self) new hmem

/-- A pass adds nothing exactly when every entry repeats one that was there. -/
theorem foldl_appendNew_eq_self {again : ρ → ρ → Bool} {rs log : List ρ} :
    rs.foldl (appendNew again) log = log ↔ ∀ r ∈ rs, log.any (fun old => again old r) = true := by
  induction rs with
  | nil => simp
  | cons r rs ih =>
    rw [List.foldl_cons, appendNew, List.forall_mem_cons]
    by_cases hagain : log.any (fun old => again old r) = true
    · rw [if_pos hagain, ih]
      exact (and_iff_right hagain).symm
    rw [if_neg hagain]
    obtain ⟨added, heq, -⟩ := foldl_appendNew again rs (log ++ [r])
    rw [heq, List.append_assoc, List.singleton_append]
    refine iff_of_false (fun hsame => ?_) fun h => hagain h.1
    exact List.cons_ne_nil _ _ (List.append_right_eq_self.1 hsame)

/-- Whether an entry is a repeat after a pass: of one that was there, or of one that came. -/
theorem any_foldl_appendNew {again : ρ → ρ → Bool}
    (htrans : ∀ old mid new, again old mid = true → again mid new = true → again old new = true)
    (rs log : List ρ) (r : ρ) :
    (rs.foldl (appendNew again) log).any (fun old => again old r)
      = (log ++ rs).any fun old => again old r := by
  induction rs generalizing log with
  | nil => rw [List.foldl_nil, List.append_nil]
  | cons new rs ih =>
    rw [List.foldl_cons, ih, appendNew]
    split
    · rename_i hagain
      obtain ⟨old, hold, hagain⟩ := List.any_eq_true.1 hagain
      simp only [List.any_append, List.any_cons]
      cases hnew : again new r with
      | false => rfl
      | true =>
        have hany : log.any (fun old => again old r) = true :=
          List.any_eq_true.2 ⟨old, hold, htrans old new r hagain hnew⟩
        rw [hany, Bool.true_or, Bool.true_or]
    · rw [List.append_assoc, List.singleton_append]

/-- Entries of another kind leave those of a kind as they were. -/
theorem filter_foldl_appendNew {kind : ρ → Bool} {rs : List ρ}
    (hkind : ∀ r ∈ rs, kind r = false) (log : List ρ) :
    (rs.foldl (appendNew again) log).filter kind = log.filter kind := by
  obtain ⟨added, heq, hsub, -⟩ := foldl_appendNew again rs log
  have hadded : added.filter kind = [] := by
    apply List.filter_eq_nil_iff.2
    intro r hr
    rw [hkind r (hsub.mem hr)]
    decide
  rw [heq, List.filter_append, hadded, List.append_nil]

/-- The only entry of its kind is added unless it repeats one before it. -/
theorem filter_foldl_appendNew_split {again : ρ → ρ → Bool}
    (htrans : ∀ old mid new, again old mid = true → again mid new = true → again old new = true)
    {kind : ρ → Bool} {before after : List ρ} {r : ρ} (hr : kind r = true)
    (hbefore : ∀ r ∈ before, kind r = false) (hafter : ∀ r ∈ after, kind r = false)
    (log : List ρ) :
    ((before ++ r :: after).foldl (appendNew again) log).filter kind
      = if (log ++ before).any (fun old => again old r) = true then log.filter kind
        else log.filter kind ++ [r] := by
  rw [List.foldl_append, List.foldl_cons, filter_foldl_appendNew again hafter, appendNew,
    any_foldl_appendNew htrans]
  split
  · rw [filter_foldl_appendNew again hbefore]
  rw [List.filter_append, filter_foldl_appendNew again hbefore, List.filter_cons_of_pos hr,
    List.filter_nil]

/-- A list is summed up in two parts. -/
theorem sum_filter_split {M : Type*} [AddCommMonoid M] (f : ρ → M) (p q : ρ → Bool)
    (rs : List ρ) :
    ((rs.filter p).map f).sum
      = ((rs.filter fun r => p r && q r).map f).sum
        + ((rs.filter fun r => p r && !q r).map f).sum := by
  induction rs with
  | nil => simp
  | cons r rs ih =>
    cases hp : p r with
    | false => simp only [List.filter_cons, hp, Bool.false_and, Bool.false_eq_true, if_false, ih]
    | true =>
      cases hq : q r with
      | false => simp [hp, hq, ih, add_left_comm]
      | true => simp [hp, hq, ih, add_assoc]

/-! ## Totals -/

/-- **Storing a value changes a sum by the new value less the one it replaces.** -/
theorem OrderedMap.sum_set {M α : Type*} [AddCommMonoid M] [DecidableEq κ] (f : κ × α → M)
    (m : OrderedMap κ α) (k : κ) (v : α) :
    ((m.set k v).entries.map f).sum + ((m.get? k).map fun old => f (k, old)).getD 0
      = (m.entries.map f).sum + f (k, v) := by
  cases hget : m.get? k with
  | none =>
    have hkey : (m.entries.any fun e => e.1 = k) = false := by
      rw [OrderedMap.get?, Option.map_eq_none_iff, List.find?_eq_none] at hget
      exact List.any_eq_false.2 hget
    simp [OrderedMap.set, OrderedMap.setEntries, hkey]
  | some old =>
    obtain ⟨before, after, hentries⟩ := List.append_of_mem (OrderedMap.get?_eq_some.1 hget)
    have hnodup := m.nodup
    rw [hentries, List.map_append, List.map_cons, List.nodup_append, List.nodup_cons] at hnodup
    obtain ⟨-, ⟨hafter, -⟩, hbefore⟩ := hnodup
    -- no other entry has the key
    have hsame : ∀ l : List (κ × α), (∀ e ∈ l, e.1 ≠ k) →
        (l.map fun e => if e.1 = k then (k, v) else e) = l := by
      intro l hl
      exact (List.map_congr_left fun e he => if_neg (hl e he)).trans (List.map_id l)
    have hset : (m.set k v).entries = before ++ (k, v) :: after := by
      have hany : (m.entries.any fun e => e.1 = k) = true := by
        rw [hentries]
        simp
      simp only [OrderedMap.set, OrderedMap.setEntries]
      rw [if_pos hany, hentries, List.map_append, List.map_cons, if_pos rfl,
        hsame before fun e he => hbefore e.1 (List.mem_map_of_mem he) k List.mem_cons_self,
        hsame after fun e he heq => hafter (List.mem_map.2 ⟨e, he, heq⟩)]
    rw [hset, hentries]
    simp only [List.map_append, List.map_cons, List.sum_append, List.sum_cons, Option.map_some,
      Option.getD_some]
    ac_rfl

variable [DecidableEq κ] (key : ρ → κ) (weight : ρ → ℤ)

/-- The total weight of the entries under a key. -/
def tally (log : List ρ) (k : κ) : ℤ := ((log.filter fun r => key r = k).map weight).sum

theorem tally_concat (log : List ρ) (r : ρ) (k : κ) :
    tally key weight (log ++ [r]) k
      = tally key weight log k + if key r = k then weight r else 0 := by
  by_cases h : key r = k <;> simp [tally, List.filter_append, h]

/-- A key without entries has no weight. -/
theorem tally_eq_zero {log : List ρ} {k : κ} (h : ∀ r ∈ log, key r ≠ k) :
    tally key weight log k = 0 := by
  have hempty : (log.filter fun r => key r = k) = [] := by
    rw [List.filter_eq_nil_iff]
    exact fun r hr hk => h r hr (of_decide_eq_true hk)
  rw [tally, hempty]
  rfl

/-- Add a weight to the total under a key. -/
def OrderedMap.add (m : OrderedMap κ ℤ) (k : κ) (w : ℤ) : OrderedMap κ ℤ :=
  m.set k ((m.get? k).getD 0 + w)

/-- The dictionary holds the totals of the log. -/
def Tallies (log : List ρ) (m : OrderedMap κ ℤ) : Prop :=
  ∀ k, (m.get? k).getD 0 = tally key weight log k

variable {key weight}

theorem tallies_empty : Tallies key weight [] (OrderedMap.empty : OrderedMap κ ℤ) :=
  fun _ => rfl

theorem Tallies.add {log : List ρ} {m : OrderedMap κ ℤ} (h : Tallies key weight log m) (r : ρ) :
    Tallies key weight (log ++ [r]) (m.add (key r) (weight r)) := by
  intro k
  rw [tally_concat, OrderedMap.add, OrderedMap.get?_set]
  by_cases hk : k = key r
  · subst hk
    simp [h (key r)]
  have hne : key r ≠ k := fun heq => hk heq.symm
  simp [hk, hne, h k]

end MultiAcademy.Lib
