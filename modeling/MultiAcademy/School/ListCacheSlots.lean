import MultiAcademy.School.ListCacheFreshness

/-!
# Loads in flight

As long as the cache is not cleared, the loads in flight are the ones whose result will be
stored: those that have not ended and whose key no invalidation has moved on.  A key with a load
in flight has no entry.
-/

namespace MultiAcademy.School

open MultiAcademy.Lib

variable {α : Type}

/-- The load has not ended, and its key has not been moved on since it started. -/
def ListCache.Current (c : ListCache α) (key : String) (request : ℕ) : Prop :=
  ∃ load, c.loads[request]? = some load ∧ load.key = key ∧ load.phase = .pending
    ∧ load.generation = c.generations key

/-- The slots in flight are the current loads; their keys have no entry, and no generation is
ahead of its key. -/
structure SlotsPending (c : ListCache α) : Prop where
  slots : ∀ key request, c.inFlight.get? key = some request ↔ c.Current key request
  apart : ∀ key request, c.inFlight.get? key = some request → c.entries.get? key = none
  behind : ∀ load ∈ c.loads, load.generation ≤ c.generations load.key

theorem slotsPending_empty : SlotsPending ({} : ListCache α) := by
  refine ⟨fun key request => ⟨nofun, ?_⟩, fun key request => nofun, fun load => nofun⟩
  rintro ⟨load, hload, -⟩
  cases hload

section Steps
variable {c : ListCache α} {key k : String} {request : ℕ} {load : Load}

/-! ## Calls -/

theorem give_slots (h : SlotsPending c) (i : ℕ) : SlotsPending (c.give i) :=
  ⟨h.slots, h.apart, h.behind⟩

theorem SlotsPending.of_entries (h : SlotsPending c) {entries : OrderedMap String (ListEntry α)}
    (hnone : ∀ k, c.entries.get? k = none → entries.get? k = none) :
    SlotsPending { c with entries } :=
  ⟨h.slots, fun k i hslot => hnone k (h.apart k i hslot), h.behind⟩

/-- The slots once a load has started under a key that has none. -/
theorem get?_joinOrLoad (key : String) (ttl : Time) (c : ListCache α) :
    (joinOrLoad key ttl c).inFlight.get? k
      = if k = key then some ((c.inFlight.get? key).getD c.loads.length)
        else c.inFlight.get? k := by
  unfold joinOrLoad
  cases hslot : c.inFlight.get? key with
  | some pending =>
    by_cases hk : k = key
    · simp [ListCache.give, hk, hslot]
    · simp [ListCache.give, hk]
  | none =>
    by_cases hk : k = key
    · simp [ListCache.give, OrderedMap.get?_set, hk]
    · simp [ListCache.give, OrderedMap.get?_set, hk]

theorem joinOrLoad_slots (h : SlotsPending c) (hentry : c.entries.get? key = none) (ttl : Time) :
    SlotsPending (joinOrLoad key ttl c) := by
  unfold joinOrLoad
  cases hslot : c.inFlight.get? key with
  | some pending => exact give_slots h pending
  | none =>
    have hnew : ∀ k i, ListCache.Current
        { c with
          loads := c.loads ++ [{ key, generation := c.generations key, ttl }]
          inFlight := c.inFlight.set key c.loads.length } k i
        ↔ c.Current k i ∨ (k = key ∧ i = c.loads.length) := by
      intro k i
      rcases Nat.lt_trichotomy i c.loads.length with hi | hi | hi
      · simp only [ListCache.Current, List.getElem?_append_left hi]
        have hne : ¬ (k = key ∧ i = c.loads.length) := by omega
        simp [hne]
      · subst hi
        simp [ListCache.Current, eq_comm]
        exact fun hkey => hkey ▸ rfl
      have hnone : ∀ l : List Load, l.length ≤ i → l[i]? = none := fun l hl =>
        List.getElem?_eq_none hl
      have hne : ¬ (k = key ∧ i = c.loads.length) := by omega
      simp only [ListCache.Current, hne, or_false]
      rw [hnone c.loads (by omega), hnone _ (by simp; omega)]
    refine give_slots ⟨fun k i => ?_, fun k i hk => ?_, fun load hload => ?_⟩ _
    · rw [hnew, OrderedMap.get?_set]
      by_cases hk : k = key
      · subst hk
        have hnone : ¬ c.Current k i := by
          rw [← h.slots, hslot]
          simp
        simp [hnone, eq_comm]
      · simp [hk, h.slots]
    · rw [OrderedMap.get?_set] at hk
      split at hk
      · rename_i heq
        rw [heq]
        exact hentry
      · exact h.apart k i hk
    rcases List.mem_append.1 hload with hold | hnew
    · exact h.behind load hold
    · rw [List.mem_singleton.1 hnew]

/-- The entries after a call: the expired one is gone. -/
theorem get?_getOrLoad {listTtl now : Time} {ttlMs : Option Time} {entry : ListEntry α}
    (hentry : (getOrLoad listTtl now key false ttlMs c).entries.get? k = some entry) :
    ∃ old, c.entries.get? k = some old ∧ old.value = entry.value
      ∧ old.expiresAt = entry.expiresAt ∧ old.load = entry.load := by
  have hjoin : ∀ (ttl : Time) (c' : ListCache α),
      (joinOrLoad key ttl c').entries = c'.entries := by
    intro ttl c'
    unfold joinOrLoad
    split <;> rfl
  unfold getOrLoad at hentry
  simp only [Bool.false_eq_true, if_false] at hentry
  cases hcached : c.entries.get? key with
  | none =>
    rw [hcached] at hentry
    simp only [hjoin] at hentry
    exact ⟨entry, hentry, rfl, rfl, rfl⟩
  | some cached =>
    rw [hcached] at hentry
    simp only at hentry
    split at hentry
    · simp only [ListCache.give, OrderedMap.get?_set] at hentry
      split at hentry
      · rename_i hk
        cases hentry
        exact ⟨cached, hk ▸ hcached, rfl, rfl, rfl⟩
      · exact ⟨entry, hentry, rfl, rfl, rfl⟩
    rw [hjoin, OrderedMap.get?_erase] at hentry
    split at hentry
    · cases hentry
    · exact ⟨entry, hentry, rfl, rfl, rfl⟩

/-- A call keeps the slots, apart from the one of a load that it starts. -/
theorem inFlight_getOrLoad {listTtl now : Time} {ttlMs : Option Time}
    (hslot : (getOrLoad listTtl now key false ttlMs c).inFlight.get? k = some request) :
    c.inFlight.get? k = some request ∨ (k = key ∧ request = c.loads.length) := by
  have hjoin : ∀ (ttl : Time) (c' : ListCache α),
      (joinOrLoad key ttl c').inFlight.get? k = some request →
      c'.inFlight.get? k = some request ∨ (k = key ∧ request = c'.loads.length) := by
    intro ttl c' h
    rw [get?_joinOrLoad] at h
    split at h
    · rename_i hk
      subst hk
      cases hold : c'.inFlight.get? k with
      | some pending =>
        rw [hold] at h
        exact Or.inl h
      | none =>
        rw [hold] at h
        exact Or.inr ⟨rfl, (Option.some.inj h).symm⟩
    · exact Or.inl h
  unfold getOrLoad at hslot
  simp only [Bool.false_eq_true, if_false] at hslot
  split at hslot
  · exact hjoin _ _ hslot
  split at hslot
  · exact Or.inl hslot
  · exact hjoin _ { c with entries := c.entries.erase key } hslot

/-- A call starts one load at most, and ends none. -/
theorem length_getOrLoad (listTtl now : Time) (key : String) (ttlMs : Option Time)
    (c : ListCache α) :
    c.loads.length ≤ (getOrLoad listTtl now key false ttlMs c).loads.length := by
  have hjoin : ∀ (ttl : Time) (c' : ListCache α),
      c'.loads.length ≤ (joinOrLoad key ttl c').loads.length := by
    intro ttl c'
    unfold joinOrLoad
    split
    · exact le_rfl
    · simp [ListCache.give]
  unfold getOrLoad
  simp only [Bool.false_eq_true, if_false]
  split
  · exact hjoin _ c
  split
  · exact le_rfl
  · exact hjoin _ { c with entries := c.entries.erase key }

theorem getOrLoad_slots (h : SlotsPending c) (listTtl now : Time) (key : String)
    (ttlMs : Option Time) : SlotsPending (getOrLoad listTtl now key false ttlMs c) := by
  unfold getOrLoad
  simp only [Bool.false_eq_true, if_false]
  split
  · rename_i hnone
    exact joinOrLoad_slots h hnone _
  rename_i cached hcached
  split
  · refine give_slots (h.of_entries fun k hfree => ?_) _
    rw [OrderedMap.get?_set]
    split
    · rename_i heq
      rw [heq, hcached] at hfree
      cases hfree
    · exact hfree
  refine joinOrLoad_slots (h.of_entries fun k hfree => ?_) ?_ _
  · rw [OrderedMap.get?_erase]
    split
    · rfl
    · exact hfree
  · rw [OrderedMap.get?_erase, if_pos rfl]

/-! ## Loads that end -/

/-- A load ends and is settled in one turn. -/
def finishLoad (now : Time) (request : ℕ) (load : Load) (result : Option α) (c : ListCache α) :
    ListCache α := settleLoad request load (endLoad now request load result c)

variable {now : Time} {result : Option α}

/-- A load stores its result if it is current. -/
theorem entries_finishLoad :
    (finishLoad now request load result c).entries
      = match result with
        | some value =>
          if c.generations load.key = load.generation then
            (evictFor load.key c.entries).set load.key
              { value, touchedAt := now, expiresAt := now + max (Time.seconds 1) load.ttl
                load := request }
          else c.entries
        | none => c.entries := by
  unfold finishLoad settleLoad endLoad
  cases result with
  | none => rfl
  | some value =>
    by_cases hgen : c.generations load.key = load.generation
    · simp [hgen, ListCache.set]
    · simp [hgen]

theorem finishLoad_rest :
    (finishLoad now request load result c).generations = c.generations
      ∧ (finishLoad now request load result c).loads
        = c.loads.set request { load with phase := .settled }
      ∧ (finishLoad now request load result c).inFlight
        = if c.inFlight.get? load.key = some request then c.inFlight.erase load.key
          else c.inFlight := by
  unfold finishLoad settleLoad endLoad
  cases result with
  | none => simp
  | some value =>
    by_cases hgen : c.generations load.key = load.generation
    · simp [hgen, ListCache.set]
    · simp [hgen]

/-- The slots once a load has ended. -/
theorem inFlight_finishLoad (h : SlotsPending c) (hload : c.loads[request]? = some load)
    (i : ℕ) :
    (finishLoad now request load result c).inFlight.get? k = some i
      ↔ c.inFlight.get? k = some i ∧ i ≠ request := by
  rw [finishLoad_rest.2.2]
  have hkey : ∀ k, c.inFlight.get? k = some request → k = load.key := by
    intro k hslot
    obtain ⟨load', hload', rfl, -⟩ := (h.slots k request).1 hslot
    rw [hload] at hload'
    cases hload'
    rfl
  split
  · rename_i hown
    rw [OrderedMap.get?_erase]
    split
    · rename_i heq
      subst heq
      simp [hown, eq_comm]
    rename_i hne
    refine ⟨fun hslot => ⟨hslot, ?_⟩, fun hslot => hslot.1⟩
    rintro rfl
    exact hne (hkey k hslot)
  rename_i hother
  refine ⟨fun hslot => ⟨hslot, ?_⟩, fun hslot => hslot.1⟩
  rintro rfl
  exact hother (hkey k hslot ▸ hslot)

theorem getElem?_finishLoad (hload : c.loads[request]? = some load) (i : ℕ) :
    (finishLoad now request load result c).loads[i]?
      = if i = request then some { load with phase := .settled } else c.loads[i]? := by
  rw [finishLoad_rest.2.1]
  by_cases hi : i = request
  · subst hi
    rw [List.getElem?_set_self (List.getElem?_eq_some_iff.1 hload).1, if_pos rfl]
  · rw [List.getElem?_set_ne (fun heq => hi heq.symm), if_neg hi]

theorem current_finishLoad (hload : c.loads[request]? = some load) (k : String) (i : ℕ) :
    (finishLoad now request load result c).Current k i ↔ c.Current k i ∧ i ≠ request := by
  unfold ListCache.Current
  rw [getElem?_finishLoad hload, finishLoad_rest.1]
  by_cases hi : i = request
  · simp [hi]
  · simp [hi]

theorem finishLoad_slots (h : SlotsPending c) (hload : c.loads[request]? = some load)
    (hphase : load.phase = .pending) (now : Time) (result : Option α) :
    SlotsPending (finishLoad now request load result c) := by
  refine ⟨fun k i => ?_, fun k i hslot => ?_, fun load' hload' => ?_⟩
  · rw [inFlight_finishLoad h hload, current_finishLoad hload, h.slots]
  · obtain ⟨hbefore, hne⟩ := (inFlight_finishLoad h hload i).1 hslot
    have hfree : c.entries.get? k = none := h.apart k i hbefore
    rw [entries_finishLoad]
    cases result with
    | none => exact hfree
    | some value =>
      simp only
      split
      · rename_i hgen
        rw [OrderedMap.get?_set]
        split
        · -- the load that ends has the slot of its key
          rename_i hk
          have hcurrent : c.Current k request :=
            ⟨load, hload, hk.symm, hphase, hk ▸ hgen.symm⟩
          have hown := (h.slots k request).2 hcurrent
          rw [hbefore] at hown
          exact absurd (Option.some.inj hown) hne
        cases hget : (evictFor load.key c.entries).get? k with
        | none => rfl
        | some entry =>
          rw [get?_evictFor hget] at hfree
          cases hfree
      · exact hfree
  rw [finishLoad_rest.1]
  obtain ⟨i, hi⟩ := List.mem_iff_getElem?.1 hload'
  rw [getElem?_finishLoad hload] at hi
  split at hi
  · cases hi
    exact h.behind load (List.mem_of_getElem? hload)
  · exact h.behind load' (List.mem_of_getElem? hi)

/-- The entry of a load that ends is its own result, and the others were there. -/
theorem get?_finishLoad {entry : ListEntry α}
    (hentry : (finishLoad now request load result c).entries.get? k = some entry) :
    (k = load.key ∧ result = some entry.value ∧ entry.load = request
        ∧ c.generations load.key = load.generation)
      ∨ c.entries.get? k = some entry := by
  rw [entries_finishLoad] at hentry
  cases result with
  | none => exact Or.inr hentry
  | some value =>
    simp only at hentry
    split at hentry
    · rename_i hgen
      rw [OrderedMap.get?_set] at hentry
      split at hentry
      · rename_i hk
        cases hentry
        exact Or.inl ⟨hk, rfl, rfl, hgen⟩
      · exact Or.inr (get?_evictFor hentry)
    · exact Or.inr hentry

/-! ## Invalidations -/

theorem current_invalidateList (h : SlotsPending c) (family k : String) (i : ℕ) :
    (invalidateList family c).Current k i ↔ c.Current k i ∧ under family k = false := by
  have hload : ∀ load : Load,
      (if under family load.key then { load with outdated := true } else load).key = load.key
        ∧ (if under family load.key then { load with outdated := true } else load).phase
          = load.phase
        ∧ (if under family load.key then { load with outdated := true } else load).generation
          = load.generation := by
    intro load
    split
    · exact ⟨rfl, rfl, rfl⟩
    · exact ⟨rfl, rfl, rfl⟩
  have hloads : ∀ P : Load → Prop,
      (∃ load, (invalidateList family c).loads[i]? = some load ∧ P load)
      ↔ ∃ load, c.loads[i]? = some load
        ∧ P (if under family load.key then { load with outdated := true } else load) := by
    intro P
    simp [invalidateList]
  unfold ListCache.Current
  rw [hloads]
  cases hunder : under family k with
  | false =>
    have hgen : (invalidateList family c).generations k = c.generations k := by
      simp [invalidateList, hunder]
    simp [hload, hgen]
  | true =>
    refine iff_of_false ?_ (by simp)
    rintro ⟨load, hi, hk, hphase, hgen⟩
    rw [(hload load).1] at hk
    rw [(hload load).2.1] at hphase
    rw [(hload load).2.2] at hgen
    subst hk
    have hbehind := h.behind load (List.mem_of_getElem? hi)
    by_cases hslot : (c.inFlight.get? load.key).isSome = true
    · simp only [invalidateList, hunder, hslot, Bool.and_self, if_true] at hgen
      omega
    simp only [invalidateList, hunder, hslot, Bool.and_false] at hgen
    have hcurrent := (h.slots load.key i).2 ⟨load, hi, rfl, hphase, by simpa using hgen⟩
    rw [hcurrent] at hslot
    exact hslot rfl

theorem invalidateList_slots (h : SlotsPending c) (family : String) :
    SlotsPending (invalidateList family c) := by
  refine ⟨fun k i => ?_, fun k i hslot => ?_, fun load hload => ?_⟩
  · rw [current_invalidateList h, ← h.slots]
    simp only [invalidateList, OrderedMap.get?_removeWhere]
    cases under family k with
    | true => simp
    | false => simp
  · simp only [invalidateList, OrderedMap.get?_removeWhere] at hslot ⊢
    split at hslot
    · cases hslot
    rename_i hunder
    rw [if_neg hunder]
    exact h.apart k i hslot
  obtain ⟨old, hold, rfl⟩ := List.mem_map.1 hload
  have hbehind := h.behind old hold
  have hnext : c.generations old.key ≤ (invalidateList family c).generations old.key := by
    simp only [invalidateList]
    split <;> omega
  split
  · exact hbehind.trans hnext
  · exact hbehind.trans hnext

end Steps
end MultiAcademy.School
