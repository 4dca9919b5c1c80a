import MultiAcademy.School.ListCache

/-!
# What the list cache keeps out

A load that an invalidation has covered since it started brings data from before a
mutation.  The generation of its key keeps its result out of the cache: an invalidation
moves the key on while a load is in flight.  `clear` resets the generations and forgets the
loads in flight, so that an invalidation before or after it goes unnoticed.  The bound of
the cache rests on evicting the oldest entry, which the empty key prevents.
-/

namespace MultiAcademy.School

open MultiAcademy.Lib

variable {α : Type}

/-! ## What is kept out -/

/-- **No data from before a mutation**: no stored result and no result given to a call
comes from a load that an invalidation of a prefix of its key came after, and the cache is
bounded. -/
structure KeepsOut (c : ListCache α) : Prop where
  stored : ∀ key entry, c.entries.get? key = some entry → c.outdated entry.load = false
  given : ∀ g ∈ c.given, g.outdated = false
  bounded : c.entries.size ≤ 5000

/-- There is room for a key, or an entry that can be evicted. -/
def hasRoom (key : String) (entries : OrderedMap String (ListEntry α)) : Bool :=
  entries.size < 5000 || (entries.get? key).isSome || oldestKey entries ≠ some ""

/-- A load that ends in the generation it started in is not outdated, and there is room for
its result. -/
def ListCacheEvent.safe (c : ListCache α) : ListCacheEvent α → Bool
  | .endLoad request (some _) _ =>
    match c.loads[request]? with
    | some load =>
      if load.phase = .pending ∧ c.generations load.key = load.generation then
        !load.outdated && hasRoom load.key c.entries
      else true
    | none => true
  | _ => true

/-- The entries and the slots in flight belong to loads of their keys, and no load in
flight is outdated. -/
structure ListTracked (c : ListCache α) : Prop where
  entries : ∀ key entry, c.entries.get? key = some entry → c.keyOf entry.load = some key
  inFlight : ∀ key request, c.inFlight.get? key = some request →
    c.keyOf request = some key ∧ c.outdated request = false

section Steps
variable {c : ListCache α} {key : String} {entries : OrderedMap String (ListEntry α)}

/-! ## Room -/

/-- A fold that keeps one of two ends with one of the list. -/
theorem exists_foldl_eq {β : Type*} {f : Option β → β → Option β} {l : List β}
    (hnone : ∀ e, f none e = some e)
    (hsome : ∀ kept e, f (some kept) e = some e ∨ f (some kept) e = some kept) (hne : l ≠ []) :
    ∃ e ∈ l, l.foldl f none = some e := by
  have hfold : ∀ (rest : List β) (kept : β), ∃ e ∈ kept :: rest,
      rest.foldl f (some kept) = some e := by
    intro rest
    induction rest with
    | nil => exact fun kept => ⟨kept, List.mem_cons_self, rfl⟩
    | cons e rest ih =>
      intro kept
      rw [List.foldl_cons]
      rcases hsome kept e with he | hkept
      · obtain ⟨last, hlast, hfolded⟩ := ih e
        exact ⟨last, List.mem_cons_of_mem _ hlast, by rw [he, hfolded]⟩
      · obtain ⟨last, hlast, hfolded⟩ := ih kept
        refine ⟨last, ?_, by rw [hkept, hfolded]⟩
        rcases List.mem_cons.1 hlast with rfl | hlast
        · exact List.mem_cons_self
        · exact List.mem_cons_of_mem _ (List.mem_cons_of_mem _ hlast)
  obtain ⟨first, rest, rfl⟩ := List.exists_cons_of_ne_nil hne
  rw [List.foldl_cons, hnone]
  exact hfold rest first

/-- A cache that is not empty has an oldest entry. -/
theorem oldestKey_of_pos (h : 0 < entries.size) :
    ∃ oldest, oldestKey entries = some oldest ∧ (entries.get? oldest).isSome := by
  have hne : entries.entries ≠ [] := List.ne_nil_of_length_pos h
  have hkept : ∃ e ∈ entries.entries, oldestKey entries = some e.1 := by
    unfold oldestKey
    refine (exists_foldl_eq (fun _ => rfl) ?_ hne).imp fun e he =>
      ⟨he.1, congrArg (Option.map Prod.fst) he.2⟩
    intro kept e
    dsimp only
    split
    · exact Or.inl rfl
    · exact Or.inr rfl
  obtain ⟨e, he, holdest⟩ := hkept
  exact ⟨e.1, holdest, OrderedMap.mem_keys_iff.1 (List.mem_map_of_mem he)⟩

/-- Storing under a key keeps the cache bounded exactly when there is room. -/
theorem size_evictFor_set (h : entries.size ≤ 5000) (entry : ListEntry α) :
    ((evictFor key entries).set key entry).size ≤ 5000 ↔ hasRoom key entries = true := by
  rw [OrderedMap.size_set, evictFor, hasRoom]
  by_cases hkey : (entries.get? key).isSome = true
  · have hsome : (entries.get? key).isNone = false := by
      rw [Option.isNone_eq_false_iff]
      exact hkey
    simp [hkey, hsome, h]
  have hnone : (entries.get? key).isNone = true := by simpa using hkey
  by_cases hfull : 5000 ≤ entries.size
  · have hpos : 0 < entries.size := by omega
    obtain ⟨oldest, holdest, hmem⟩ := oldestKey_of_pos hpos
    have herase := OrderedMap.size_erase hmem
    have hover : ¬ entries.size + 1 ≤ 5000 := by omega
    by_cases hempty : oldest = ""
    · simp [hfull, hnone, hkey, holdest, hempty, hover]
    have hgone : ((entries.erase oldest).get? key).isSome = false := by
      rw [OrderedMap.get?_erase]
      split
      · rfl
      · simpa using hkey
    have hback : (entries.erase oldest).size + 1 ≤ 5000 := by omega
    simp [hfull, hnone, holdest, hempty, hgone, hback]
  have hroom : entries.size < 5000 := by omega
  simp [hfull, hkey, hroom, Nat.succ_le_of_lt hroom]

/-! ## The bookkeeping -/

variable {c' : ListCache α}

/-- Every entry of the second cache was in the first, for the same load. -/
def FewerEntries (c c' : ListCache α) : Prop :=
  ∀ key entry, c'.entries.get? key = some entry →
    ∃ old, c.entries.get? key = some old ∧ old.load = entry.load

theorem FewerEntries.refl (c : ListCache α) : FewerEntries c c :=
  fun _ entry h => ⟨entry, h, rfl⟩

/-- The loads keep their keys, and are as outdated as they were. -/
structure SameLoads (c c' : ListCache α) : Prop where
  keyOf : ∀ load key, c.keyOf load = some key → c'.keyOf load = some key
  outdated : ∀ load, c'.outdated load = c.outdated load

theorem SameLoads.of_eq (h : c'.loads = c.loads) : SameLoads c c' := by
  refine ⟨fun load key hkey => ?_, fun load => ?_⟩
  · rw [ListCache.keyOf, h]
    exact hkey
  rw [ListCache.outdated, h]
  rfl

variable {request : ℕ} {load : Load}

/-- A load moves on. -/
theorem SameLoads.of_set (hload : c.loads[request]? = some load)
    (phase : LoadPhase) (h : c'.loads = c.loads.set request { load with phase }) :
    SameLoads c c' := by
  have hget : ∀ i, c'.loads[i]? = if i = request then some { load with phase }
      else c.loads[i]? := by
    intro i
    rw [h]
    by_cases hi : i = request
    · subst hi
      rw [List.getElem?_set_self (List.getElem?_eq_some_iff.1 hload).1, if_pos rfl]
    · rw [List.getElem?_set_ne (fun heq => hi heq.symm), if_neg hi]
  refine ⟨fun i key hkey => ?_, fun i => ?_⟩
  · by_cases hi : i = request
    · subst hi
      rw [ListCache.keyOf, hload] at hkey
      rw [ListCache.keyOf, hget, if_pos rfl]
      exact hkey
    rw [ListCache.keyOf, hget, if_neg hi]
    exact hkey
  by_cases hi : i = request
  · subst hi
    rw [ListCache.outdated, ListCache.outdated, hget, if_pos rfl, hload]
    rfl
  · rw [ListCache.outdated, ListCache.outdated, hget, if_neg hi]

/-- A load starts. -/
theorem SameLoads.of_append (hnew : load.outdated = false)
    (h : c'.loads = c.loads ++ [load]) : SameLoads c c' := by
  refine ⟨fun i key hkey => ?_, fun i => ?_⟩
  · obtain ⟨old, hold, rfl⟩ := Option.map_eq_some_iff.1 hkey
    rw [ListCache.keyOf, h, List.getElem?_append_left (List.getElem?_eq_some_iff.1 hold).1, hold]
    rfl
  rw [ListCache.outdated, ListCache.outdated, h]
  rcases Nat.lt_trichotomy i c.loads.length with hi | hi | hi
  · rw [List.getElem?_append_left hi]
  · simp [hi, hnew]
  · rw [List.getElem?_eq_none (by simp; omega), List.getElem?_eq_none (by omega)]

/-- What only drops entries and slots keeps the bookkeeping. -/
theorem ListTracked.of_fewer (h : ListTracked c) (hloads : SameLoads c c')
    (hentries : FewerEntries c c')
    (hslots : ∀ key request, c'.inFlight.get? key = some request →
      c.inFlight.get? key = some request) : ListTracked c' where
  entries := by
    intro key entry hentry
    obtain ⟨old, hold, hload⟩ := hentries key entry hentry
    rw [← hload]
    exact hloads.keyOf _ _ (h.entries key old hold)
  inFlight := by
    intro key request hrequest
    obtain ⟨hkey, hfresh⟩ := h.inFlight key request (hslots key request hrequest)
    exact ⟨hloads.keyOf _ _ hkey, by rw [hloads.outdated, hfresh]⟩

/-- What drops entries, and gives no outdated result, still keeps outdated results out. -/
theorem KeepsOut.of_fewer (h : KeepsOut c) (hloads : SameLoads c c')
    (hentries : FewerEntries c c') (hsize : c'.entries.size ≤ c.entries.size)
    (hgiven : ∀ g ∈ c'.given, g ∈ c.given ∨ g.outdated = false) : KeepsOut c' where
  stored := by
    intro key entry hentry
    obtain ⟨old, hold, hload⟩ := hentries key entry hentry
    rw [← hload, hloads.outdated]
    exact h.stored key old hold
  given := by
    intro g hg
    rcases hgiven g hg with hold | hnew
    · exact h.given g hold
    · exact hnew
  bounded := hsize.trans h.bounded

/-! ## Calls -/

theorem give_kept (ht : ListTracked c) (hk : KeepsOut c)
    (hfresh : c.outdated request = false) :
    ListTracked (c.give request) ∧ KeepsOut (c.give request) := by
  refine ⟨ht.of_fewer (.of_eq rfl) (.refl c) fun _ _ h => h,
    hk.of_fewer (.of_eq rfl) (.refl c) le_rfl fun g hg => ?_⟩
  rcases List.mem_append.1 hg with hold | hnew
  · exact Or.inl hold
  rw [List.mem_singleton.1 hnew]
  exact Or.inr hfresh

theorem joinOrLoad_kept (ht : ListTracked c) (hk : KeepsOut c) (key : String) (ttl : Time) :
    ListTracked (joinOrLoad key ttl c) ∧ KeepsOut (joinOrLoad key ttl c) := by
  rw [joinOrLoad]
  cases hslot : c.inFlight.get? key with
  | some pending => exact give_kept ht hk (ht.inFlight key pending hslot).2
  | none =>
    let load : Load := { key, generation := c.generations key, ttl }
    let started : ListCache α :=
      { c with
        loads := c.loads ++ [load]
        inFlight := c.inFlight.set key c.loads.length }
    have hnew : load.outdated = false := rfl
    have hloads : SameLoads c started := .of_append hnew rfl
    have hkey : started.keyOf c.loads.length = some key := by
      simp [ListCache.keyOf, started, load]
    have hfresh : started.outdated c.loads.length = false := by
      simp [ListCache.outdated, started, load]
    have ht' : ListTracked started := by
      refine ⟨fun k entry h => hloads.keyOf _ _ (ht.entries k entry h), fun k request h => ?_⟩
      rw [OrderedMap.get?_set] at h
      split at h
      · rename_i heq
        cases h
        rw [heq]
        exact ⟨hkey, hfresh⟩
      obtain ⟨hkey', hfresh'⟩ := ht.inFlight k request h
      exact ⟨hloads.keyOf _ _ hkey', by rw [hloads.outdated, hfresh']⟩
    exact give_kept ht' (hk.of_fewer hloads (.refl c) le_rfl fun g hg => Or.inl hg) hfresh

/-- A call is given no outdated result. -/
theorem getOrLoad_kept (ht : ListTracked c) (hk : KeepsOut c) (listTtl now : Time) (key : String)
    (force : Bool) (ttlMs : Option Time) :
    ListTracked (getOrLoad listTtl now key force ttlMs c)
      ∧ KeepsOut (getOrLoad listTtl now key force ttlMs c) := by
  simp only [getOrLoad]
  split
  · exact joinOrLoad_kept ht hk key _
  cases hcached : c.entries.get? key with
  | none => exact joinOrLoad_kept ht hk key _
  | some cached =>
    dsimp only
    split
    · let touched : ListCache α :=
        { c with entries := c.entries.set key { cached with touchedAt := now } }
      have hfewer : FewerEntries c touched := by
        intro k entry h
        rw [OrderedMap.get?_set] at h
        split at h
        · rename_i heq
          cases h
          exact ⟨cached, by rw [heq, hcached], rfl⟩
        · exact ⟨entry, h, rfl⟩
      have hsize : touched.entries.size ≤ c.entries.size := by
        simp [touched, OrderedMap.size_set, hcached]
      exact give_kept (ht.of_fewer (.of_eq rfl) hfewer fun _ _ h => h)
        (hk.of_fewer (.of_eq rfl) hfewer hsize fun g hg => Or.inl hg)
        (hk.stored key cached hcached)
    let erased : ListCache α := { c with entries := c.entries.erase key }
    have hfewer : FewerEntries c erased := by
      intro k entry h
      rw [OrderedMap.get?_erase] at h
      split at h
      · cases h
      · exact ⟨entry, h, rfl⟩
    have ht' : ListTracked erased := ht.of_fewer (.of_eq rfl) hfewer fun _ _ h => h
    have hk' : KeepsOut erased :=
      hk.of_fewer (.of_eq rfl) hfewer (OrderedMap.size_erase_le _ _) fun g hg => Or.inl hg
    exact joinOrLoad_kept ht' hk' key _

/-! ## Loads that end -/

theorem get?_evictFor {k : String} {entry : ListEntry α}
    (h : (evictFor key entries).get? k = some entry) : entries.get? k = some entry := by
  rw [evictFor] at h
  split at h
  · split at h
    · split at h
      · rw [OrderedMap.get?_erase] at h
        split at h
        · cases h
        · exact h
      · exact h
    · exact h
  · exact h

theorem settleLoad_kept (hload : c.loads[request]? = some load)
    (ht : ListTracked c) (hk : KeepsOut c) :
    ListTracked (settleLoad request load c) ∧ KeepsOut (settleLoad request load c) := by
  have hloads : SameLoads c (settleLoad request load c) := .of_set hload .settled rfl
  refine ⟨ht.of_fewer hloads (.refl c) fun k r h => ?_,
    hk.of_fewer hloads (.refl c) le_rfl fun g hg => Or.inl hg⟩
  simp only [settleLoad] at h
  split at h
  · rw [OrderedMap.get?_erase] at h
    split at h
    · cases h
    · exact h
  · exact h

/-- A load that fails, or whose key has moved on, stores nothing. -/
theorem endLoad_dropped_kept (hload : c.loads[request]? = some load)
    {result : Option α}
    (hdropped : ∀ value, result = some value → c.generations load.key ≠ load.generation)
    (now : Time) (ht : ListTracked c) (hk : KeepsOut c) :
    ListTracked (endLoad now request load result c)
      ∧ KeepsOut (endLoad now request load result c) := by
  have hended : endLoad now request load result c
      = { c with loads := c.loads.set request { load with phase := .ended } } := by
    cases result with
    | none => rfl
    | some value => simp [endLoad, hdropped value rfl]
  rw [hended]
  have hloads : SameLoads c
      { c with loads := c.loads.set request { load with phase := .ended } } :=
    .of_set hload .ended rfl
  exact ⟨ht.of_fewer hloads (.refl c) fun _ _ h => h,
    hk.of_fewer hloads (.refl c) le_rfl fun g hg => Or.inl hg⟩

/-- The result of a load is stored: outdated results stay out exactly when it is not
outdated, and there is room. -/
theorem endLoad_kept_iff (hload : c.loads[request]? = some load)
    (hgen : c.generations load.key = load.generation) (value : α) (now : Time)
    (ht : ListTracked c) (hk : KeepsOut c) :
    ListTracked (endLoad now request load (some value) c)
      ∧ (KeepsOut (endLoad now request load (some value) c)
        ↔ load.outdated = false ∧ hasRoom load.key c.entries = true) := by
  have hloads : SameLoads c (endLoad now request load (some value) c) :=
    .of_set hload .ended (by simp [endLoad, hgen, ListCache.set])
  have hkey : c.keyOf request = some load.key := by simp [ListCache.keyOf, hload]
  have hout : c.outdated request = load.outdated := by simp [ListCache.outdated, hload]
  have hentries : (endLoad now request load (some value) c).entries
      = (evictFor load.key c.entries).set load.key
        { value, touchedAt := now, expiresAt := now + max (Time.seconds 1) load.ttl
          load := request } := by
    simp [endLoad, hgen, ListCache.set]
  have hslots : (endLoad now request load (some value) c).inFlight = c.inFlight := by
    simp [endLoad, hgen, ListCache.set]
  have hgiven : (endLoad now request load (some value) c).given = c.given := by
    simp [endLoad, hgen, ListCache.set]
  refine ⟨⟨fun k entry h => ?_, fun k r h => ?_⟩, ?_⟩
  · rw [hentries, OrderedMap.get?_set] at h
    split at h
    · rename_i heq
      cases h
      rw [heq]
      exact hloads.keyOf _ _ hkey
    · exact hloads.keyOf _ _ (ht.entries k entry (get?_evictFor h))
  · rw [hslots] at h
    obtain ⟨hkey', hfresh'⟩ := ht.inFlight k r h
    exact ⟨hloads.keyOf _ _ hkey', by rw [hloads.outdated, hfresh']⟩
  constructor
  · intro h
    refine ⟨?_, (size_evictFor_set hk.bounded _).1 (hentries ▸ h.bounded)⟩
    have hstored := h.stored load.key _ (by rw [hentries, OrderedMap.get?_set, if_pos rfl])
    rw [hloads.outdated, hout] at hstored
    exact hstored
  rintro ⟨hfresh, hroom⟩
  refine ⟨fun k entry h => ?_, fun g hg => hk.given g (hgiven ▸ hg), ?_⟩
  · rw [hloads.outdated]
    rw [hentries, OrderedMap.get?_set] at h
    split at h
    · cases h
      rw [hout, hfresh]
    · exact hk.stored k entry (get?_evictFor h)
  rw [hentries]
  exact (size_evictFor_set hk.bounded _).2 hroom

/-! ## Invalidations -/

theorem invalidateList_frame {family : String} (hkey : under family key = false)
    (c : ListCache α) :
    (invalidateList family c).entries.get? key = c.entries.get? key
      ∧ (invalidateList family c).inFlight.get? key = c.inFlight.get? key
      ∧ (invalidateList family c).generations key = c.generations key := by
  simp [invalidateList, OrderedMap.get?_removeWhere, hkey]

theorem keyOf_invalidateList (family : String) (c : ListCache α) (i : ℕ) :
    (invalidateList family c).keyOf i = c.keyOf i := by
  simp only [ListCache.keyOf, invalidateList, List.getElem?_map, Option.map_map]
  congr 1
  funext load
  simp only [Function.comp_apply]
  split <;> rfl

theorem outdated_invalidateList {family : String} {i : ℕ} (hkey : c.keyOf i = some key) :
    (invalidateList family c).outdated i = (c.outdated i || under family key) := by
  obtain ⟨load, hload, rfl⟩ := Option.map_eq_some_iff.1 hkey
  simp only [ListCache.outdated, invalidateList, List.getElem?_map, hload, Option.map_some,
    Option.any_some]
  cases hunder : under family load.key <;> simp

theorem invalidateList_kept (family : String) (ht : ListTracked c) (hk : KeepsOut c) :
    ListTracked (invalidateList family c) ∧ KeepsOut (invalidateList family c) := by
  have hentry : ∀ k entry, (invalidateList family c).entries.get? k = some entry →
      under family k = false ∧ c.entries.get? k = some entry := by
    intro k entry h
    simp only [invalidateList, OrderedMap.get?_removeWhere] at h
    split at h
    · cases h
    rename_i hunder
    exact ⟨by simpa using hunder, h⟩
  have hslot : ∀ k r, (invalidateList family c).inFlight.get? k = some r →
      under family k = false ∧ c.inFlight.get? k = some r := by
    intro k r h
    simp only [invalidateList, OrderedMap.get?_removeWhere] at h
    split at h
    · cases h
    rename_i hunder
    exact ⟨by simpa using hunder, h⟩
  refine ⟨⟨fun k entry h => ?_, fun k r h => ?_⟩, ⟨fun k entry h => ?_, hk.given, ?_⟩⟩
  · rw [keyOf_invalidateList]
    exact ht.entries k entry (hentry k entry h).2
  · obtain ⟨hunder, hold⟩ := hslot k r h
    obtain ⟨hkey, hfresh⟩ := ht.inFlight k r hold
    rw [keyOf_invalidateList, outdated_invalidateList hkey, hfresh, hunder]
    exact ⟨hkey, rfl⟩
  · obtain ⟨hunder, hold⟩ := hentry k entry h
    rw [outdated_invalidateList (ht.entries k entry hold), hk.stored k entry hold, hunder]
    rfl
  · exact (OrderedMap.size_removeWhere_le _ _).trans hk.bounded

theorem clearLists_kept (hk : KeepsOut c) :
    ListTracked (clearLists c) ∧ KeepsOut (clearLists c) := by
  refine ⟨⟨fun k entry h => ?_, fun k r h => ?_⟩, ⟨fun k entry h => ?_, hk.given, ?_⟩⟩
  · cases h
  · cases h
  · cases h
  · exact Nat.zero_le _

/-! ## Steps -/

/-- The bookkeeping is kept, and outdated results stay out exactly when the step is safe. -/
theorem listCacheStep_kept (listTtl : Time) (e : ListCacheEvent α) (ht : ListTracked c)
    (hk : KeepsOut c) :
    ListTracked (listCacheStep listTtl e c)
      ∧ (KeepsOut (listCacheStep listTtl e c) ↔ e.safe c = true) := by
  have hsafe : ∀ {c' : ListCache α}, e.safe c = true → ListTracked c' ∧ KeepsOut c' →
      ListTracked c' ∧ (KeepsOut c' ↔ e.safe c = true) :=
    fun hsafe h => ⟨h.1, iff_of_true h.2 hsafe⟩
  cases e with
  | getOrLoad key force ttlMs now =>
    exact hsafe rfl (getOrLoad_kept ht hk listTtl now key force ttlMs)
  | settle request =>
    simp only [listCacheStep]
    cases hload : c.loads[request]? with
    | none => exact hsafe rfl ⟨ht, hk⟩
    | some load =>
      dsimp only
      split
      · exact hsafe rfl (settleLoad_kept hload ht hk)
      · exact hsafe rfl ⟨ht, hk⟩
  | invalidate family => exact hsafe rfl (invalidateList_kept family ht hk)
  | clear => exact hsafe rfl (clearLists_kept hk)
  | endLoad request result now =>
    simp only [listCacheStep]
    cases hload : c.loads[request]? with
    | none =>
      refine hsafe ?_ ⟨ht, hk⟩
      cases result <;> simp [ListCacheEvent.safe, hload]
    | some load =>
      dsimp only
      by_cases hpending : load.phase = .pending
      · rw [if_pos hpending]
        cases result with
        | none => exact hsafe rfl (endLoad_dropped_kept hload (by simp) now ht hk)
        | some value =>
          by_cases hgen : c.generations load.key = load.generation
          · obtain ⟨ht', hk'⟩ := endLoad_kept_iff hload hgen value now ht hk
            refine ⟨ht', hk'.trans ?_⟩
            simp [ListCacheEvent.safe, hload, hpending, hgen]
          refine hsafe (by simp [ListCacheEvent.safe, hload, hgen]) ?_
          exact endLoad_dropped_kept hload (fun _ _ => hgen) now ht hk
      rw [if_neg hpending]
      refine hsafe ?_ ⟨ht, hk⟩
      cases result <;> simp [ListCacheEvent.safe, hload, hpending]

end Steps

/-! ## Runs -/

theorem listTracked_start : ListTracked ({} : ListCache α) := by
  constructor
  · intro key entry h
    cases h
  intro key request h
  cases h

theorem keepsOut_start : KeepsOut ({} : ListCache α) := by
  refine ⟨?_, ?_, Nat.zero_le _⟩
  · intro key entry h
    cases h
  intro g hg
  cases hg

/-- **When the list cache keeps outdated results out**: throughout a run, no stored result
and no result given to a call comes from a load that an invalidation outdated before, and
the cache is bounded, exactly when every step is safe.  An invalidation never touches the
keys that are not under its prefix. -/
theorem list_cache_kept_iff (listTtl : Time) (es : List (ListCacheEvent α)) :
    (Along (listCacheStep listTtl) (fun c e => e.safe c = true) {} es
        ↔ ∀ pre, pre <+: es → KeepsOut (run (listCacheStep listTtl) ({} : ListCache α) pre))
      ∧ ∀ (family key : String) (c : ListCache α), under family key = false →
        (listCacheStep listTtl (.invalidate family) c).entries.get? key = c.entries.get? key
          ∧ (listCacheStep listTtl (.invalidate family) c).inFlight.get? key = c.inFlight.get? key
          ∧ (listCacheStep listTtl (.invalidate family) c).generations key
            = c.generations key := by
  refine ⟨?_, fun family key c hkey => invalidateList_frame hkey c⟩
  have hkept : ∀ (c : ListCache α) (e : ListCacheEvent α), True → KeepsOut c →
      ListTracked c → ListTracked (listCacheStep listTtl e c)
        ∧ (KeepsOut (listCacheStep listTtl e c) ↔ e.safe c = true) :=
    fun _ e _ hk ht => listCacheStep_kept listTtl e ht hk
  exact along_iff_throughout_with (fun c e hD hk ht => (hkept c e hD hk ht).1)
    (fun c e hD hk ht => (hkept c e hD hk ht).2) (along_of_forall fun _ _ => trivial)
    keepsOut_start listTracked_start

/-! ## Caches that are cleared with care -/

/-- No key is empty, and nothing is cleared under a pending load. -/
def ListCacheEvent.careful (c : ListCache α) : ListCacheEvent α → Prop
  | .getOrLoad key _ _ _ => key ≠ ""
  | .clear => ∀ load ∈ c.loads, load.phase ≠ .pending
  | _ => True

/-- What the generations say of a pending load: it has its slot until it is outdated, and
then its key has moved on. -/
structure Guarded (c : ListCache α) : Prop where
  keys : ∀ load ∈ c.loads, load.key ≠ ""
  pending : ∀ i load, c.loads[i]? = some load → load.phase = .pending →
    load.generation ≤ c.generations load.key
      ∧ (load.outdated = true → load.generation < c.generations load.key)
      ∧ (load.outdated = false → c.inFlight.get? load.key = some i)

section Careful
variable {c : ListCache α}

theorem guarded_start : Guarded ({} : ListCache α) := by
  constructor
  · intro load h
    cases h
  intro i load h
  simp at h

theorem Guarded.of_eq {c' : ListCache α} (h : Guarded c) (hloads : c'.loads = c.loads)
    (hslots : c'.inFlight = c.inFlight) (hgen : c'.generations = c.generations) : Guarded c' := by
  constructor
  · rw [hloads]
    exact h.keys
  rw [hloads, hslots, hgen]
  exact h.pending

/-- A load that is no longer pending needs no slot. -/
theorem Guarded.of_set {c' : ListCache α} {request : ℕ} {load : Load} {phase : LoadPhase}
    (h : Guarded c) (hload : c.loads[request]? = some load) (hphase : phase ≠ .pending)
    (hloads : c'.loads = c.loads.set request { load with phase })
    (hslots : ∀ key i, i ≠ request → c.inFlight.get? key = some i →
      c'.inFlight.get? key = some i)
    (hgen : c'.generations = c.generations) : Guarded c' := by
  constructor
  · intro load' hmem
    rw [hloads] at hmem
    rcases List.mem_or_eq_of_mem_set hmem with hold | rfl
    · exact h.keys load' hold
    · exact h.keys load (List.mem_of_getElem? hload)
  intro i load' hget hpending
  rw [hloads] at hget
  by_cases hi : i = request
  · subst hi
    rw [List.getElem?_set_self (List.getElem?_eq_some_iff.1 hload).1] at hget
    cases hget
    exact absurd hpending hphase
  rw [List.getElem?_set_ne fun heq => hi heq.symm] at hget
  obtain ⟨hle, hlt, hslot⟩ := h.pending i load' hget hpending
  rw [hgen]
  exact ⟨hle, hlt, fun hfresh => hslots _ i hi (hslot hfresh)⟩

theorem joinOrLoad_guarded (h : Guarded c) {key : String} (hkey : key ≠ "") (ttl : Time) :
    Guarded (joinOrLoad key ttl c) := by
  rw [joinOrLoad]
  cases hslot : c.inFlight.get? key with
  | some pending => exact h.of_eq rfl rfl rfl
  | none =>
    let load : Load := { key, generation := c.generations key, ttl }
    let started : ListCache α :=
      { c with
        loads := c.loads ++ [load]
        inFlight := c.inFlight.set key c.loads.length }
    have hstarted : Guarded started := by
      constructor
      · intro load' hmem
        rcases List.mem_append.1 hmem with hold | hnew
        · exact h.keys load' hold
        rw [List.mem_singleton.1 hnew]
        exact hkey
      intro i load' hget hpending
      simp only [started, OrderedMap.get?_set]
      rcases Nat.lt_trichotomy i c.loads.length with hi | hi | hi
      · rw [List.getElem?_append_left hi] at hget
        obtain ⟨hle, hlt, hown⟩ := h.pending i load' hget hpending
        refine ⟨hle, hlt, fun hfresh => ?_⟩
        -- a fresh pending load of this key would have the slot
        have hne : load'.key ≠ key := by
          intro heq
          have hsome := hown hfresh
          rw [heq, hslot] at hsome
          cases hsome
        rw [if_neg hne]
        exact hown hfresh
      · subst hi
        simp only [started, List.getElem?_concat_length, Option.some.injEq] at hget
        subst hget
        exact ⟨le_rfl, fun hout => by simp [load] at hout, fun _ => if_pos rfl⟩
      rw [List.getElem?_eq_none (by simp [started]; omega)] at hget
      cases hget
    exact hstarted.of_eq rfl rfl rfl

theorem getOrLoad_guarded (h : Guarded c) (listTtl now : Time) {key : String} (hkey : key ≠ "")
    (force : Bool) (ttlMs : Option Time) :
    Guarded (getOrLoad listTtl now key force ttlMs c) := by
  simp only [getOrLoad]
  split
  · exact joinOrLoad_guarded h hkey _
  split
  · exact joinOrLoad_guarded h hkey _
  split
  · exact h.of_eq rfl rfl rfl
  let erased : ListCache α := { c with entries := c.entries.erase key }
  have h' : Guarded erased := h.of_eq rfl rfl rfl
  exact joinOrLoad_guarded h' hkey _

theorem invalidateList_guarded (family : String) (h : Guarded c) :
    Guarded (invalidateList family c) := by
  constructor
  · intro load hmem
    obtain ⟨old, hold, rfl⟩ := List.mem_map.1 hmem
    split <;> exact h.keys old hold
  intro i load hget hpending
  obtain ⟨old, hold, rfl⟩ := Option.map_eq_some_iff.1 (List.getElem?_map.symm.trans hget)
  cases hunder : under family old.key with
  | false =>
    simp only [hunder, Bool.false_eq_true, if_false] at hpending ⊢
    obtain ⟨hle, hlt, hslot⟩ := h.pending i old hold hpending
    obtain ⟨-, hslots, hgen⟩ := invalidateList_frame hunder c
    rw [hgen, hslots]
    exact ⟨hle, hlt, hslot⟩
  | true =>
    simp only [hunder, if_true] at hpending ⊢
    obtain ⟨hle, hlt, hslot⟩ := h.pending i old hold hpending
    have hmoved : old.generation < (invalidateList family c).generations old.key := by
      simp only [invalidateList, hunder, Bool.true_and]
      cases hout : old.outdated with
      | true =>
        have hbehind := hlt hout
        split <;> omega
      | false => rw [hslot hout, Option.isSome_some, if_pos rfl]; omega
    exact ⟨hmoved.le, fun _ => hmoved, fun hfresh => by cases hfresh⟩

theorem listCacheStep_guarded (listTtl : Time) {e : ListCacheEvent α} (he : e.careful c)
    (h : Guarded c) : Guarded (listCacheStep listTtl e c) := by
  cases e with
  | getOrLoad key force ttlMs now => exact getOrLoad_guarded h listTtl now he force ttlMs
  | invalidate family => exact invalidateList_guarded family h
  | clear =>
    refine ⟨h.keys, fun i load hget hpending => ?_⟩
    exact absurd hpending (he load (List.mem_of_getElem? hget))
  | settle request =>
    simp only [listCacheStep]
    split
    · rename_i load hload
      split
      · refine h.of_set hload (by decide) rfl (fun key i hi hslot => ?_) rfl
        simp only [settleLoad]
        split
        · rename_i hown
          rw [OrderedMap.get?_erase, if_neg]
          · exact hslot
          rintro rfl
          rw [hown] at hslot
          cases hslot
          exact hi rfl
        · exact hslot
      · exact h
    · exact h
  | endLoad request result now =>
    simp only [listCacheStep]
    split
    · rename_i load hload
      split
      · have hframe : (endLoad now request load result c).loads
              = c.loads.set request { load with phase := .ended }
            ∧ (endLoad now request load result c).inFlight = c.inFlight
            ∧ (endLoad now request load result c).generations = c.generations := by
          simp only [endLoad]
          cases result with
          | none => exact ⟨rfl, rfl, rfl⟩
          | some value => dsimp only; split <;> exact ⟨rfl, rfl, rfl⟩
        refine h.of_set hload (by decide) hframe.1 (fun key i _ hslot => ?_) hframe.2.2
        rw [hframe.2.1]
        exact hslot
      · exact h
    · exact h

/-- With the bookkeeping, every step is safe. -/
theorem safe_of_guarded (ht : ListTracked c) (h : Guarded c) (e : ListCacheEvent α) :
    e.safe c = true := by
  cases e with
  | endLoad request result now =>
    cases result with
    | none => rfl
    | some value =>
      simp only [ListCacheEvent.safe]
      split
      · rename_i load hload
        split
        · rename_i hends
          obtain ⟨-, hlt, -⟩ := h.pending request load hload hends.1
          have hfresh : load.outdated = false := by
            apply Bool.eq_false_iff.2
            intro hout
            have hbehind := hlt hout
            omega
          rw [hfresh, Bool.not_false, Bool.true_and, hasRoom]
          by_cases hfull : c.entries.size < 5000
          · simp [hfull]
          have hpos : 0 < c.entries.size := by omega
          obtain ⟨oldest, holdest, hmem⟩ := oldestKey_of_pos hpos
          obtain ⟨entry, hentry⟩ := Option.isSome_iff_exists.1 hmem
          obtain ⟨owner, howner, rfl⟩ :=
            Option.map_eq_some_iff.1 (ht.entries oldest entry hentry)
          have hkey : owner.key ≠ "" := h.keys owner (List.mem_of_getElem? howner)
          simp [holdest, hkey]
        · rfl
      · rfl
  | getOrLoad key force ttlMs now => rfl
  | settle request => rfl
  | invalidate family => rfl
  | clear => rfl

end Careful

/-- A cache that is not cleared under a pending load, and has no empty key, meets the condition at
every step. -/
theorem list_cache_careful (listTtl : Time) (es : List (ListCacheEvent α))
    (h : Along (listCacheStep listTtl) (fun c e => e.careful c) ({} : ListCache α) es) :
    Along (listCacheStep listTtl) (fun c e => e.safe c = true) ({} : ListCache α) es := by
  refine Along.of_invariant (I := fun c => KeepsOut c ∧ ListTracked c ∧ Guarded c) ?_ ?_
    ⟨keepsOut_start, listTracked_start, guarded_start⟩ h
  · intro c e hI he
    obtain ⟨hk, ht, hg⟩ := hI
    obtain ⟨ht', hk'⟩ := listCacheStep_kept listTtl e ht hk
    exact ⟨hk'.2 (safe_of_guarded ht hg e), ht', listCacheStep_guarded listTtl he hg⟩
  · exact fun c e hI _ => safe_of_guarded hI.2.1 hI.2.2 e

theorem list_cache_careful_example :
    Along (listCacheStep 60) (fun c e => e.safe c = true) ({} : ListCache ℕ)
      [.getOrLoad "students" false none 0, .endLoad 0 (some 1) 1] :=
  list_cache_careful 60 _ ⟨show "students" ≠ "" by decide, trivial, trivial⟩

namespace Example

/-- The users of a school are loaded, and change meanwhile; the cache is cleared before the
load ends. -/
def clearedUnderLoad : List (ListCacheEvent String) :=
  [.getOrLoad "tenant:a:users:all" false none 0, .invalidate "tenant:a:users:", .clear,
    .endLoad 0 (some "stale") 0]

end Example

/-- The cache does not always keep outdated results out: the generation an invalidation has
moved on is reset. -/
theorem not_list_cache_kept :
    ¬ ∀ (listTtl : Time) (es : List (ListCacheEvent String)),
      KeepsOut (run (listCacheStep listTtl) ({} : ListCache String) es) := by
  intro h
  have hstored := (h (Time.seconds 45) Example.clearedUnderLoad).stored "tenant:a:users:all"
    ⟨"stale", 0, Time.seconds 45, 0⟩ rfl
  revert hstored
  decide

end MultiAcademy.School
