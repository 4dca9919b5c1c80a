import MultiAcademy.School.Announcements

/-!
# The lists of critical announcements that are held

What a user's next call is given is a live entry of the cache, what a load in flight has read, or
what a query finds then.  A list comes to be held in one way only, by the query of a load.
-/

namespace MultiAcademy.School

open MultiAcademy.Lib

namespace AnnouncementStores
variable {s : AnnouncementStores} {userId : String} {list : List PendingAnnouncement}

/-- What the cache and the loads hold together: the slots are the loads in flight, a load that
has not started has read nothing, and an entry is what its load has read. -/
structure LoadsTracked (s : AnnouncementStores) : Prop where
  slots : SlotsPending s.cache
  unread : ∀ load, s.cache.loads.length ≤ load → s.read load = none
  stored : ∀ key entry, s.cache.entries.get? key = some entry →
    s.read entry.load = some entry.value

/-- A list is held by a live entry, or has been read by a load in flight. -/
theorem held_eq_some (h : LoadsTracked s) :
    s.held userId = some list
      ↔ (∃ entry, s.cache.entries.get? (criticalKey s.tenantId userId) = some entry
          ∧ s.now < entry.expiresAt ∧ entry.value = list)
        ∨ ∃ load, s.cache.inFlight.get? (criticalKey s.tenantId userId) = some load
          ∧ s.read load = some list := by
  cases hentry : s.cache.entries.get? (criticalKey s.tenantId userId) with
  | none => simp [held, hentry, Option.bind_eq_some_iff]
  | some entry =>
    -- there is an entry, and no load in flight
    have hslot : s.cache.inFlight.get? (criticalKey s.tenantId userId) = none := by
      cases hslot : s.cache.inFlight.get? (criticalKey s.tenantId userId) with
      | none => rfl
      | some load =>
        rw [h.slots.apart _ load hslot] at hentry
        cases hentry
    simp [held, hentry, hslot]

theorem criticalKey_inj {tenantId userId' : String}
    (h : criticalKey tenantId userId = criticalKey tenantId userId') : userId = userId' := by
  unfold criticalKey at h
  rwa [String.append_right_inj] at h

theorem under_criticalKey (tenantId userId : String) :
    under (criticalFamily tenantId) (criticalKey tenantId userId) = true := by
  unfold under criticalKey
  rw [String.toList_append, List.isPrefixOf_iff_prefix]
  exact List.prefix_append _ _

theorem pendingLoad_eq_some {load : ℕ} {l : Load} :
    s.pendingLoad load = some l ↔ s.cache.loads[load]? = some l ∧ l.phase = .pending := by
  simp [pendingLoad, Option.filter_eq_some_iff]

/-! ## Calls -/

theorem callPendingCritical_tracked (h : LoadsTracked s) (listTtl : Time) (userId : String) :
    LoadsTracked (s.callPendingCritical listTtl userId) := by
  refine ⟨getOrLoad_slots h.slots _ _ _ _, fun load hload => ?_, fun key entry hentry => ?_⟩
  · exact h.unread load ((length_getOrLoad _ _ _ _ _).trans hload)
  obtain ⟨old, hold, hvalue, -, hload⟩ := get?_getOrLoad hentry
  have hstored := h.stored key old hold
  rw [hvalue, hload] at hstored
  exact hstored

/-- A call holds no list that was not held. -/
theorem held_call (h : LoadsTracked s) (listTtl : Time) (user' : String)
    (hheld : (s.callPendingCritical listTtl user').held userId = some list) :
    s.held userId = some list := by
  rw [held_eq_some (callPendingCritical_tracked h listTtl user')] at hheld
  rw [held_eq_some h]
  rcases hheld with ⟨entry, hentry, hlive, hvalue⟩ | ⟨load, hslot, hread⟩
  · obtain ⟨old, hold, holdValue, hexpires, -⟩ := get?_getOrLoad hentry
    exact Or.inl ⟨old, hold, hexpires ▸ hlive, holdValue.trans hvalue⟩
  rcases inFlight_getOrLoad hslot with hold | ⟨-, hnew⟩
  · exact Or.inr ⟨load, hold, hread⟩
  have hnone := h.unread load hnew.ge
  have hsome : s.read load = some list := hread
  rw [hnone] at hsome
  cases hsome

/-! ## Queries -/

theorem runQuery_tracked (h : LoadsTracked s) (user' : String) (load : ℕ) :
    LoadsTracked (s.runQuery user' load) := by
  unfold runQuery
  cases hpending : s.pendingLoad load with
  | none => exact h
  | some l =>
    simp only
    split
    · rename_i hcond
      obtain ⟨-, hunread⟩ := hcond
      obtain ⟨hload, -⟩ := pendingLoad_eq_some.1 hpending
      have hlength := (List.getElem?_eq_some_iff.1 hload).1
      refine ⟨h.slots, fun i hi => ?_, fun key entry hentry => ?_⟩
      · have hne : i ≠ load := by
          have hi' : s.cache.loads.length ≤ i := hi
          omega
        simpa only [Function.update_of_ne hne] using h.unread i hi
      have hstored := h.stored key entry hentry
      have hne : entry.load ≠ load := by
        intro heq
        rw [heq, hunread] at hstored
        cases hstored
      simpa only [Function.update_of_ne hne] using hstored
    · exact h

/-- A query reads the list as it is. -/
theorem held_query (h : LoadsTracked s) (user' : String) (load : ℕ)
    (hheld : (s.runQuery user' load).held userId = some list) :
    s.held userId = some list ∨ list = s.loadPending userId := by
  have htracked := runQuery_tracked h user' load
  rw [held_eq_some htracked] at hheld
  unfold runQuery at hheld htracked
  cases hpending : s.pendingLoad load with
  | none =>
    rw [hpending] at hheld
    exact Or.inl ((held_eq_some h).2 hheld)
  | some l =>
    rw [hpending] at hheld
    simp only at hheld
    split at hheld
    · rename_i hcond
      rcases hheld with hentry | ⟨i, hslot, hread⟩
      · exact Or.inl ((held_eq_some h).2 (Or.inl hentry))
      by_cases hi : i = load
      · subst hi
        obtain ⟨l', hl', hkey, -⟩ := (h.slots.slots _ i).1 hslot
        rw [(pendingLoad_eq_some.1 hpending).1] at hl'
        cases hl'
        have huser : userId = user' := criticalKey_inj (hkey.symm.trans hcond.1)
        subst huser
        simp only [Function.update_self, Option.some.injEq] at hread
        exact Or.inr hread.symm
      simp only [Function.update_of_ne hi] at hread
      exact Or.inl ((held_eq_some h).2 (Or.inr ⟨i, hslot, hread⟩))
    · exact Or.inl ((held_eq_some h).2 hheld)

/-! ## Loads that end -/

section Ending
variable {load : ℕ} {l : Load} {result : Option (List PendingAnnouncement)}

theorem endQuery_tracked (h : LoadsTracked s) (hpending : s.pendingLoad load = some l)
    (hresult : ∀ list, result = some list → s.read load = some list) :
    LoadsTracked (s.endQuery load l result) := by
  obtain ⟨hload, hphase⟩ := pendingLoad_eq_some.1 hpending
  refine ⟨finishLoad_slots h.slots hload hphase _ _, fun i hi => ?_, fun key entry hentry => ?_⟩
  · refine h.unread i ?_
    have hi' : (finishLoad s.now load l result s.cache).loads.length ≤ i := hi
    rwa [finishLoad_rest.2.1, List.length_set] at hi'
  rcases get?_finishLoad hentry with ⟨-, hvalue, hentryLoad, -⟩ | hold
  · rw [hentryLoad]
    exact hresult entry.value hvalue
  · exact h.stored key entry hold

/-- A load that ends leaves what it has read in its place. -/
theorem held_end (h : LoadsTracked s) (hpending : s.pendingLoad load = some l)
    (hresult : ∀ list, result = some list → s.read load = some list)
    (hheld : (s.endQuery load l result).held userId = some list) :
    s.held userId = some list := by
  rw [held_eq_some (endQuery_tracked h hpending hresult)] at hheld
  rw [held_eq_some h]
  obtain ⟨hload, hphase⟩ := pendingLoad_eq_some.1 hpending
  rcases hheld with ⟨entry, hentry, hlive, rfl⟩ | ⟨i, hslot, hread⟩
  · rcases get?_finishLoad hentry with ⟨hkey, hvalue, -, hgen⟩ | hold
    · -- the load was in flight under the key
      have hcurrent : s.cache.Current l.key load := ⟨l, hload, rfl, hphase, hgen.symm⟩
      have hslot := (h.slots.slots l.key load).2 hcurrent
      have hkey' : criticalKey s.tenantId userId = l.key := hkey
      rw [hkey']
      exact Or.inr ⟨load, hslot, hresult entry.value hvalue⟩
    · exact Or.inl ⟨entry, hold, hlive, rfl⟩
  have hold := ((inFlight_finishLoad h.slots hload i).1 hslot).1
  exact Or.inr ⟨i, hold, hread⟩

end Ending

/-- An answer, or a failure, of a load that has not ended. -/
theorem answerLoad_cases (s : AnnouncementStores) (load : ℕ) :
    s.answerLoad load = s
      ∨ ∃ l list, s.pendingLoad load = some l ∧ s.read load = some list
        ∧ s.answerLoad load = s.endQuery load l (some list) := by
  unfold answerLoad
  cases hpending : s.pendingLoad load with
  | none => exact Or.inl rfl
  | some l =>
    cases hread : s.read load with
    | none => exact Or.inl rfl
    | some list => exact Or.inr ⟨l, list, rfl, rfl, rfl⟩

theorem failLoad_cases (s : AnnouncementStores) (load : ℕ) :
    s.failLoad load = s
      ∨ ∃ l, s.pendingLoad load = some l ∧ s.failLoad load = s.endQuery load l none := by
  unfold failLoad
  cases hpending : s.pendingLoad load with
  | none => exact Or.inl rfl
  | some l =>
    cases hread : s.read load with
    | none => exact Or.inr ⟨l, rfl, rfl⟩
    | some list => exact Or.inl rfl

/-! ## Invalidations -/

theorem invalidate_tracked (h : LoadsTracked s) : LoadsTracked s.invalidateCriticalCache := by
  refine ⟨invalidateList_slots h.slots _, fun load hload => ?_, fun key entry hentry => ?_⟩
  · refine h.unread load ?_
    simpa [invalidateCriticalCache, invalidateList] using hload
  refine h.stored key entry ?_
  simp only [invalidateCriticalCache, invalidateList, OrderedMap.get?_removeWhere] at hentry
  split at hentry
  · cases hentry
  · exact hentry

theorem held_invalidate (s : AnnouncementStores) (userId : String) :
    s.invalidateCriticalCache.held userId = none := by
  simp [held, invalidateCriticalCache, invalidateList, OrderedMap.get?_removeWhere,
    under_criticalKey]

end AnnouncementStores
end MultiAcademy.School
