import MultiAcademy.School.AcademicLists
import MultiAcademy.School.ListCacheFreshness

/-!
# Reading one's own writes

Lists are answered through the list cache while mutators change the tables.  A call is given the
entry of its key while it lives, or the load in flight, or the load that it starts; a load reads
the tables once, between its start and its end.  A mutator invalidates some families of lists when
it is done.  What it does not invalidate stays as it was: its list is stale when the mutator
changed what the database gives.
-/

namespace MultiAcademy.School

open MultiAcademy.Lib

/-! ## The system -/

structure ListWork where
  list : AcademicList
  read : Option (Except AcademicError ListAnswer) := none

/-- A school: the time, the tables, the cache, and what its loads have read. -/
structure ListSystem where
  now : Time := 0
  store : AcademicStore := {}
  cache : ListCache ListAnswer := {}
  work : List ListWork := []

inductive ListEvent
  | list (l : AcademicList) (force : Bool)
  | read (load : ℕ)
  | finish (load : ℕ)
  | settle (load : ℕ)
  | mutate (m : AcademicMutation)
  /-- `POST cache/refresh`. -/
  | refresh
  | pass (elapsed : ℕ)

section System
variable (env : AcademicEnv) (listTtl : Time) (tenantId : String)

/-- What a load gives: what it has read, or what it would read now. -/
def ListWork.outcome (store : AcademicStore) (w : ListWork) : Except AcademicError ListAnswer :=
  w.read.getD (w.list.uncached env store)

/-- What a list call made now is given, as `getOrLoad` has it. -/
def ListSystem.answer (l : AcademicList) (force : Bool) (s : ListSystem) :
    Except AcademicError ListAnswer :=
  let key := l.key tenantId
  let live := (s.cache.entries.get? key).filter fun cached => s.now < cached.expiresAt
  match if force then none else live with
  | some cached => .ok cached.value
  | none =>
    match (s.cache.inFlight.get? key).bind fun load => s.work[load]? with
    | some w => w.outcome env s.store
    | none => l.uncached env s.store

def callList (l : AcademicList) (force : Bool) (s : ListSystem) : ListSystem :=
  let cache := listCacheStep listTtl (.getOrLoad (l.key tenantId) force none s.now) s.cache
  { s with
    cache
    work := if cache.loads.length = s.cache.loads.length then s.work
      else s.work ++ [{ list := l }] }

/-- A load reads the tables, the first time. -/
def readList (load : ℕ) (s : ListSystem) : ListSystem :=
  { s with work := s.work.modify load fun w => { w with read := some (w.outcome env s.store) } }

/-- A load that has read ends. -/
def finishList (load : ℕ) (s : ListSystem) : ListSystem :=
  match s.work[load]?.bind (·.read) with
  | some result =>
    { s with cache := listCacheStep listTtl (.endLoad load result.toOption s.now) s.cache }
  | none => s

/-- Invalidate some families of academic lists. -/
def dropLists (families : List String) (c : ListCache ListAnswer) : ListCache ListAnswer :=
  families.foldl (fun c family => invalidateList (academicKey tenantId family) c) c

def listSystemStep (e : ListEvent) (s : ListSystem) : ListSystem :=
  match e with
  | .list l force => callList listTtl tenantId l force s
  | .read load => readList env load s
  | .finish load => finishList listTtl load s
  | .settle load => { s with cache := listCacheStep listTtl (.settle load) s.cache }
  | .mutate m =>
    { s with
      store := m.apply env s.now s.store
      cache := dropLists tenantId (m.drops env s.now s.store) s.cache }
  | .refresh => { s with cache := invalidateTenantLists tenantId s.cache }
  | .pass elapsed => { s with now := s.now + elapsed }

/-! ## Fresh lists -/

/-- **Read your writes**: every list call made now is given what the database gives now. -/
def ListsFresh (s : ListSystem) : Prop :=
  ∀ l force, s.answer env tenantId l force = l.uncached env s.store

/-- A list is held: an entry that lives, or a load in flight that has read, is under its key. -/
def ListSystem.holds (s : ListSystem) (l : AcademicList) : Bool :=
  ((s.cache.entries.get? (l.key tenantId)).any fun cached => s.now < cached.expiresAt)
    || ((s.cache.inFlight.get? (l.key tenantId)).bind fun load => s.work[load]?).any (·.read.isSome)

/-- A call of `getOrLoad` starts a load. -/
def startsLoad (now : Time) (key : String) (force : Bool) (c : ListCache ListAnswer) : Bool :=
  (c.inFlight.get? key).isNone
    && (force || !(c.entries.get? key).any fun cached => now < cached.expiresAt)

/-- The step disturbs no list.  A mutator changes no list that is held, that it does not
invalidate, and whose tables it writes; and lists that share a load, since they have one key, do
not differ. -/
def Undisturbed (s : ListSystem) : ListEvent → Prop
  | .list l force =>
    startsLoad s.now (l.key tenantId) force s.cache = true →
      ∀ l' : AcademicList, l'.key tenantId = l.key tenantId →
        l'.uncached env s.store = l.uncached env s.store
  | .mutate m =>
    ∀ l : AcademicList, covers env tenantId s.now m s.store l = false →
      (forgets env tenantId s.now m s.store l = true → s.holds tenantId l = true →
        l.uncached env (m.apply env s.now s.store) = l.uncached env s.store)
      ∧ ∀ load w, s.cache.inFlight.get? (l.key tenantId) = some load →
        s.work[load]? = some w → w.read = none →
        w.list.uncached env (m.apply env s.now s.store)
          = l.uncached env (m.apply env s.now s.store)
  | _ => True

end System

/-! ## What a call finds -/

section Held
variable {env : AcademicEnv} {listTtl : Time} {tenantId : String} {s s' : ListSystem}
  {l : AcademicList}

/-- What is held of a list is what the database gives. -/
structure FreshAt (env : AcademicEnv) (tenantId : String) (s : ListSystem) (l : AcademicList) :
    Prop where
  cached : ∀ cached, s.cache.entries.get? (l.key tenantId) = some cached →
    s.now < cached.expiresAt → .ok cached.value = l.uncached env s.store
  pending : ∀ load w, s.cache.inFlight.get? (l.key tenantId) = some load →
    s.work[load]? = some w → w.outcome env s.store = l.uncached env s.store

/-- Lists are fresh exactly when what is held of them is. -/
theorem listsFresh_iff : ListsFresh env tenantId s ↔ ∀ l, FreshAt env tenantId s l := by
  constructor
  · intro h l
    constructor
    · intro cached hcached hlive
      have hanswer := h l false
      simp only [ListSystem.answer, hcached, Option.filter, hlive, decide_true, if_true] at hanswer
      exact hanswer
    intro load w hslot hwork
    have hanswer := h l true
    simpa [ListSystem.answer, hslot, hwork] using hanswer
  intro h l force
  simp only [ListSystem.answer]
  split
  · rename_i cached hentry
    cases force with
    | true => cases hentry
    | false =>
      obtain ⟨hcached, hlive⟩ := Option.filter_eq_some_iff.1 hentry
      exact (h l).cached cached hcached (of_decide_eq_true hlive)
  split
  · rename_i w hpending
    obtain ⟨load, hslot, hwork⟩ := Option.bind_eq_some_iff.1 hpending
    exact (h l).pending load w hslot hwork
  · rfl

/-- A step that holds nothing new of a list, and changes no table, keeps it fresh. -/
theorem FreshAt.of_fewer (h : FreshAt env tenantId s l) (hstore : s'.store = s.store)
    (hentries : ∀ cached', s'.cache.entries.get? (l.key tenantId) = some cached' →
      s'.now < cached'.expiresAt → ∃ cached, s.cache.entries.get? (l.key tenantId) = some cached
        ∧ s.now < cached.expiresAt ∧ cached.value = cached'.value)
    (hslots : ∀ load w', s'.cache.inFlight.get? (l.key tenantId) = some load →
      s'.work[load]? = some w' → ∃ w, s.cache.inFlight.get? (l.key tenantId) = some load
        ∧ s.work[load]? = some w ∧ w'.outcome env s.store = w.outcome env s.store) :
    FreshAt env tenantId s' l := by
  constructor
  · intro cached' hcached' hlive'
    obtain ⟨cached, hcached, hlive, hvalue⟩ := hentries cached' hcached' hlive'
    rw [hstore, ← hvalue]
    exact h.cached cached hcached hlive
  intro load w' hslot' hwork'
  obtain ⟨w, hslot, hwork, houtcome⟩ := hslots load w' hslot' hwork'
  rw [hstore, houtcome]
  exact h.pending load w hslot hwork

/-! ## Calls -/

/-- What `joinOrLoad` leaves. -/
theorem joinOrLoad_eq (key : String) (ttl : Time) (c : ListCache ListAnswer) :
    (joinOrLoad key ttl c).entries = c.entries
      ∧ (((joinOrLoad key ttl c).loads = c.loads ∧ (joinOrLoad key ttl c).inFlight = c.inFlight
          ∧ (c.inFlight.get? key).isSome = true)
        ∨ ((∃ load, (joinOrLoad key ttl c).loads = c.loads ++ [load])
          ∧ (joinOrLoad key ttl c).inFlight = c.inFlight.set key c.loads.length
          ∧ c.inFlight.get? key = none)) := by
  rw [joinOrLoad]
  cases hslot : c.inFlight.get? key with
  | some pending => exact ⟨rfl, Or.inl ⟨rfl, rfl, rfl⟩⟩
  | none => exact ⟨rfl, Or.inr ⟨⟨_, rfl⟩, rfl, rfl⟩⟩

/-- **A call of `getOrLoad`**: it keeps what the entries hold, and starts a load or none. -/
theorem getOrLoad_eq (listTtl now : Time) (key : String) (force : Bool)
    (c : ListCache ListAnswer) :
    (∀ k cached', (getOrLoad listTtl now key force none c).entries.get? k = some cached' →
      ∃ cached, c.entries.get? k = some cached ∧ cached.expiresAt = cached'.expiresAt
        ∧ cached.value = cached'.value)
      ∧ (((getOrLoad listTtl now key force none c).loads = c.loads
          ∧ (getOrLoad listTtl now key force none c).inFlight = c.inFlight
          ∧ startsLoad now key force c = false)
        ∨ ((∃ load, (getOrLoad listTtl now key force none c).loads = c.loads ++ [load])
          ∧ (getOrLoad listTtl now key force none c).inFlight
            = c.inFlight.set key c.loads.length
          ∧ startsLoad now key force c = true)) := by
  have hjoin : ∀ (entries : OrderedMap String (ListEntry ListAnswer)) ttl,
      (force || !(c.entries.get? key).any fun cached => now < cached.expiresAt) = true →
      (∀ k cached', entries.get? k = some cached' → c.entries.get? k = some cached') →
      (∀ k cached', (joinOrLoad key ttl { c with entries }).entries.get? k = some cached' →
        ∃ cached, c.entries.get? k = some cached ∧ cached.expiresAt = cached'.expiresAt
          ∧ cached.value = cached'.value)
        ∧ (((joinOrLoad key ttl { c with entries }).loads = c.loads
            ∧ (joinOrLoad key ttl { c with entries }).inFlight = c.inFlight
            ∧ startsLoad now key force c = false)
          ∨ ((∃ load, (joinOrLoad key ttl { c with entries }).loads = c.loads ++ [load])
            ∧ (joinOrLoad key ttl { c with entries }).inFlight
              = c.inFlight.set key c.loads.length
            ∧ startsLoad now key force c = true)) := by
    intro entries ttl hmiss hfewer
    obtain ⟨hentries, hloads⟩ := joinOrLoad_eq key ttl { c with entries }
    constructor
    · intro k cached' hcached'
      rw [hentries] at hcached'
      exact ⟨cached', hfewer k cached' hcached', rfl, rfl⟩
    rcases hloads with ⟨hsame, hslots, hslot⟩ | ⟨hnew, hslots, hslot⟩
    · refine Or.inl ⟨hsame, hslots, ?_⟩
      obtain ⟨pending, hpending⟩ := Option.isSome_iff_exists.1 hslot
      simp [startsLoad, hpending]
    refine Or.inr ⟨hnew, hslots, ?_⟩
    simp only [startsLoad, hslot, hmiss, Option.isNone_none, Bool.and_true]
  simp only [getOrLoad]
  split
  · rename_i hforce
    exact hjoin c.entries _ (by simp [hforce]) fun _ _ h => h
  cases hcached : c.entries.get? key with
  | none => exact hjoin c.entries _ (by simp [hcached]) fun _ _ h => h
  | some cached =>
    dsimp only
    split
    · rename_i hlive
      constructor
      · intro k cached' hcached'
        rw [show (ListCache.give _ _).entries
          = c.entries.set key { cached with touchedAt := now } from rfl,
          OrderedMap.get?_set] at hcached'
        split at hcached'
        · rename_i heq
          cases hcached'
          exact ⟨cached, by rw [heq, hcached], rfl, rfl⟩
        · exact ⟨cached', hcached', rfl, rfl⟩
      refine Or.inl ⟨rfl, rfl, ?_⟩
      simp_all [startsLoad]
    rename_i hexpired
    refine hjoin (c.entries.erase key) _ (by simp [hcached, hexpired]) ?_
    intro k cached' hcached'
    rw [OrderedMap.get?_erase] at hcached'
    split at hcached'
    · cases hcached'
    · exact hcached'

/-! ## The bookkeeping -/

/-- The cache keeps outdated results out, and knows the loads. -/
structure ListsTracked (s : ListSystem) : Prop where
  tracked : ListTracked s.cache
  kept : KeepsOut s.cache
  guarded : Guarded s.cache
  work : s.work.length = s.cache.loads.length

theorem key_ne_empty (tenantId : String) (l : AcademicList) : l.key tenantId ≠ "" := by
  intro hempty
  have hlist := congrArg String.toList hempty
  simp [AcademicList.key, academicKey] at hlist

/-- A step of the cache keeps the bookkeeping. -/
theorem ListsTracked.of_cacheStep (h : ListsTracked s) (listTtl : Time)
    (e : ListCacheEvent ListAnswer) (he : e.careful s.cache)
    (hcache : s'.cache = listCacheStep listTtl e s.cache)
    (hwork : s'.work.length = s'.cache.loads.length) : ListsTracked s' := by
  obtain ⟨htracked, hkept⟩ := listCacheStep_kept listTtl e h.tracked h.kept
  refine ⟨?_, ?_, ?_, hwork⟩
  · rw [hcache]
    exact htracked
  · rw [hcache]
    exact hkept.2 (safe_of_guarded h.tracked h.guarded e)
  rw [hcache]
  exact listCacheStep_guarded listTtl he h.guarded

theorem length_endLoad (listTtl now : Time) (load : ℕ) (result : Option ListAnswer)
    (c : ListCache ListAnswer) :
    (listCacheStep listTtl (.endLoad load result now) c).loads.length = c.loads.length := by
  simp only [listCacheStep]
  split
  · split
    · simp only [endLoad]
      split
      · exact List.length_set
      split
      · exact List.length_set
      · exact List.length_set
    · rfl
  · rfl

theorem length_settle (listTtl : Time) (load : ℕ) (c : ListCache ListAnswer) :
    (listCacheStep listTtl (.settle load) c).loads.length = c.loads.length := by
  simp only [listCacheStep]
  split
  · split
    · exact List.length_set
    · rfl
  · rfl

theorem length_invalidateList (family : String) (c : ListCache ListAnswer) :
    (invalidateList family c).loads.length = c.loads.length := List.length_map _

/-- What is left once some families are invalidated. -/
theorem dropLists_get? (tenantId : String) (families : List String) (c : ListCache ListAnswer)
    (key : String) :
    (dropLists tenantId families c).entries.get? key
        = (if families.any fun family => under (academicKey tenantId family) key then none
          else c.entries.get? key)
      ∧ (dropLists tenantId families c).inFlight.get? key
        = (if families.any fun family => under (academicKey tenantId family) key then none
          else c.inFlight.get? key) := by
  induction families generalizing c with
  | nil => exact ⟨rfl, rfl⟩
  | cons family families ih =>
    obtain ⟨hentries, hslots⟩ := ih (invalidateList (academicKey tenantId family) c)
    simp only [dropLists, List.foldl_cons] at hentries hslots ⊢
    rw [hentries, hslots]
    simp only [invalidateList, OrderedMap.get?_removeWhere, List.any_cons]
    by_cases hunder : under (academicKey tenantId family) key = true
    · simp [hunder]
    · simp [hunder]

theorem ListsTracked.drop (h : ListsTracked s) (tenantId : String) (families : List String) :
    ListsTracked { s with cache := dropLists tenantId families s.cache } := by
  induction families generalizing s with
  | nil => exact h
  | cons family families ih =>
    let dropped : ListSystem :=
      { s with cache := invalidateList (academicKey tenantId family) s.cache }
    have hdropped : ListsTracked dropped := by
      refine h.of_cacheStep 0 (.invalidate (academicKey tenantId family)) trivial rfl ?_
      exact h.work.trans (length_invalidateList _ _).symm
    exact ih hdropped

theorem callList_work (h : s.work.length = s.cache.loads.length) (force : Bool) :
    (callList listTtl tenantId l force s).work.length
      = (callList listTtl tenantId l force s).cache.loads.length := by
  obtain ⟨-, ⟨hloads, -, -⟩ | ⟨⟨load, hloads⟩, -, -⟩⟩ :=
    getOrLoad_eq listTtl s.now (l.key tenantId) force s.cache
  · simp only [callList, listCacheStep, hloads, if_true]
    exact h
  · simp [callList, listCacheStep, hloads, h]

theorem listsTracked_step (e : ListEvent) (h : ListsTracked s) :
    ListsTracked (listSystemStep env listTtl tenantId e s) := by
  cases e with
  | list l force =>
    exact h.of_cacheStep listTtl (.getOrLoad (l.key tenantId) force none s.now)
      (key_ne_empty tenantId l) rfl (callList_work h.work force)
  | read load =>
    refine ⟨h.tracked, h.kept, h.guarded, ?_⟩
    exact (List.length_modify _ _ _).trans h.work
  | finish load =>
    simp only [listSystemStep, finishList]
    split
    · rename_i result hresult
      refine h.of_cacheStep listTtl (.endLoad load result.toOption s.now) trivial rfl ?_
      exact h.work.trans (length_endLoad listTtl _ _ _ _).symm
    · exact h
  | settle load =>
    refine h.of_cacheStep listTtl (.settle load) trivial rfl ?_
    exact h.work.trans (length_settle listTtl _ _).symm
  | mutate m =>
    have hdropped := h.drop tenantId (m.drops env s.now s.store)
    exact ⟨hdropped.tracked, hdropped.kept, hdropped.guarded, hdropped.work⟩
  | refresh =>
    refine h.of_cacheStep listTtl (.invalidate ("tenant:" ++ tenantId ++ ":")) trivial rfl ?_
    exact h.work.trans (length_invalidateList _ _).symm
  | pass elapsed => exact ⟨h.tracked, h.kept, h.guarded, h.work⟩

/-! ## One step -/

theorem ListsTracked.slot_lt (h : ListsTracked s) {key : String} {load : ℕ}
    (hslot : s.cache.inFlight.get? key = some load) : load < s.work.length := by
  obtain ⟨hkey, -⟩ := h.tracked.inFlight key load hslot
  obtain ⟨row, hrow, -⟩ := Option.map_eq_some_iff.1 hkey
  rw [h.work]
  exact (List.getElem?_eq_some_iff.1 hrow).1

/-- **A call keeps lists fresh exactly when the load it starts is for lists that agree.** -/
theorem fresh_callList (h : ∀ l, FreshAt env tenantId s l) (ht : ListsTracked s) (force : Bool) :
    (∀ l', FreshAt env tenantId (callList listTtl tenantId l force s) l')
      ↔ Undisturbed env tenantId s (.list l force) := by
  obtain ⟨hentries, hloads⟩ := getOrLoad_eq listTtl s.now (l.key tenantId) force s.cache
  have hcached : ∀ (l' : AcademicList) cached',
      (callList listTtl tenantId l force s).cache.entries.get? (l'.key tenantId) = some cached' →
      (callList listTtl tenantId l force s).now < cached'.expiresAt →
      ∃ cached, s.cache.entries.get? (l'.key tenantId) = some cached
        ∧ s.now < cached.expiresAt ∧ cached.value = cached'.value := by
    intro l' cached' hcached' hlive'
    obtain ⟨cached, hcached, hexpires, hvalue⟩ := hentries _ cached' hcached'
    exact ⟨cached, hcached, hexpires ▸ hlive', hvalue⟩
  rcases hloads with ⟨hsame, hslots, hstarts⟩ | ⟨⟨load, hnew⟩, hslots, hstarts⟩
  · refine iff_of_true (fun l' => ?_) fun hstarts' => absurd (hstarts.symm.trans hstarts') (by simp)
    refine (h l').of_fewer rfl (hcached l') ?_
    intro load w hslot hwork
    have hslot' : s.cache.inFlight.get? (l'.key tenantId) = some load := by
      rw [← hslots]
      exact hslot
    have hwork' : s.work[load]? = some w := by
      simpa [callList, listCacheStep, hsame] using hwork
    exact ⟨w, hslot', hwork', rfl⟩
  have hinFlight : (callList listTtl tenantId l force s).cache.inFlight
      = s.cache.inFlight.set (l.key tenantId) s.work.length := by
    rw [ht.work]
    exact hslots
  have hwork : (callList listTtl tenantId l force s).work = s.work ++ [{ list := l }] := by
    simp [callList, listCacheStep, hnew]
  constructor
  · intro hfresh _ l' hkey
    have hslot : (callList listTtl tenantId l force s).cache.inFlight.get? (l'.key tenantId)
        = some s.work.length := by
      rw [hinFlight, OrderedMap.get?_set, if_pos hkey]
    exact ((hfresh l').pending s.work.length { list := l } hslot (by simp [hwork])).symm
  intro hagree l'
  by_cases hkey : l'.key tenantId = l.key tenantId
  · constructor
    · intro cached' hcached' hlive'
      obtain ⟨cached, hcached, hlive, hvalue⟩ := hcached l' cached' hcached' hlive'
      rw [← hvalue]
      exact (h l').cached cached hcached hlive
    intro load' w hslot hw
    rw [hinFlight, OrderedMap.get?_set, if_pos hkey] at hslot
    cases hslot
    rw [hwork, List.getElem?_concat_length] at hw
    cases hw
    exact (hagree hstarts l' hkey).symm
  refine (h l').of_fewer rfl (hcached l') ?_
  intro load' w hslot hw
  rw [hinFlight, OrderedMap.get?_set, if_neg hkey] at hslot
  rw [hwork, List.getElem?_append_left (ht.slot_lt hslot)] at hw
  exact ⟨w, hslot, hw, rfl⟩

/-- A load that reads gives what it would have given. -/
theorem fresh_readList (h : FreshAt env tenantId s l) (load : ℕ) :
    FreshAt env tenantId (readList env load s) l := by
  refine h.of_fewer rfl (fun cached hcached hlive => ⟨cached, hcached, hlive, rfl⟩) ?_
  intro load' w' hslot hwork
  simp only [readList, List.getElem?_modify] at hwork
  obtain ⟨w, hw, rfl⟩ := Option.map_eq_some_iff.1 hwork
  refine ⟨w, hslot, hw, ?_⟩
  by_cases heq : load = load'
  · rw [if_pos heq]
    rfl
  · rw [if_neg heq]

/-- What the end of a load stores: nothing, or the value that it gave, in the generation it
started in. -/
theorem endLoad_cases (now : Time) (load : ℕ) (row : Load) (result : Option ListAnswer)
    (c : ListCache ListAnswer) :
    (endLoad now load row result c).inFlight = c.inFlight
      ∧ ∀ k cached', (endLoad now load row result c).entries.get? k = some cached' →
        c.entries.get? k = some cached'
          ∨ (k = row.key ∧ result = some cached'.value
            ∧ c.generations row.key = row.generation) := by
  simp only [endLoad]
  cases result with
  | none => exact ⟨rfl, fun k cached' h => Or.inl h⟩
  | some value =>
    dsimp only
    split
    · rename_i hgeneration
      refine ⟨rfl, fun k cached' h => ?_⟩
      simp only [ListCache.set] at h
      rw [OrderedMap.get?_set] at h
      split at h
      · rename_i hkey
        cases h
        exact Or.inr ⟨hkey, rfl, hgeneration⟩
      · exact Or.inl (get?_evictFor h)
    · exact ⟨rfl, fun k cached' h => Or.inl h⟩

/-- **The result of a load is stored only while the load has its slot**, so that it is fresh if
the lists of its key are. -/
theorem fresh_finishList (h : ∀ l, FreshAt env tenantId s l) (ht : ListsTracked s) (load : ℕ)
    (l : AcademicList) : FreshAt env tenantId (finishList listTtl load s) l := by
  simp only [finishList]
  split
  · rename_i result hresult
    obtain ⟨w, hwork, hread⟩ := Option.bind_eq_some_iff.1 hresult
    simp only [listCacheStep]
    split
    · rename_i row hrow
      split
      · rename_i hpending
        obtain ⟨hslots, hentries⟩ := endLoad_cases s.now load row result.toOption s.cache
        constructor
        · intro cached' hcached' hlive'
          rcases hentries _ cached' hcached' with hold | ⟨hkey, hvalue, hgeneration⟩
          · exact (h l).cached cached' hold hlive'
          -- it is not outdated, and so still has its slot
          obtain ⟨-, hbehind, hslot⟩ := ht.guarded.pending load row hrow hpending
          have hcurrent : row.outdated = false := by
            apply Bool.eq_false_iff.2
            intro hout
            have hless := hbehind hout
            omega
          have hfresh := (h l).pending load w (by rw [hkey]; exact hslot hcurrent) hwork
          have hok : result = .ok cached'.value := by
            cases result with
            | error error => cases hvalue
            | ok value => exact congrArg Except.ok (Option.some.inj hvalue)
          rw [ListWork.outcome, hread, Option.getD_some, hok] at hfresh
          exact hfresh
        intro load' w' hslot' hwork'
        rw [hslots] at hslot'
        exact (h l).pending load' w' hslot' hwork'
      · exact h l
    · exact h l
  · exact h l

/-- The `finally` of a load frees at most its slot. -/
theorem fresh_settle (h : FreshAt env tenantId s l) (listTtl : Time) (load : ℕ) :
    FreshAt env tenantId { s with cache := listCacheStep listTtl (.settle load) s.cache } l := by
  simp only [listCacheStep]
  split
  · split
    · refine h.of_fewer rfl (fun cached hcached hlive => ⟨cached, hcached, hlive, rfl⟩) ?_
      intro load' w hslot hwork
      refine ⟨w, ?_, hwork, rfl⟩
      simp only [settleLoad] at hslot
      split at hslot
      · rw [OrderedMap.get?_erase] at hslot
        split at hslot
        · cases hslot
        · exact hslot
      · exact hslot
    · exact h
  · exact h

/-- Nothing is held of a list that is invalidated. -/
theorem fresh_invalidate (h : FreshAt env tenantId s l) (family : String) :
    FreshAt env tenantId { s with cache := invalidateList family s.cache } l := by
  refine h.of_fewer rfl ?_ ?_
  · intro cached hcached hlive
    simp only [invalidateList, OrderedMap.get?_removeWhere] at hcached
    split at hcached
    · cases hcached
    · exact ⟨cached, hcached, hlive, rfl⟩
  intro load w hslot hwork
  simp only [invalidateList, OrderedMap.get?_removeWhere] at hslot
  split at hslot
  · cases hslot
  · exact ⟨w, hslot, hwork, rfl⟩

theorem holds_iff : s.holds tenantId l = true
    ↔ (∃ cached, s.cache.entries.get? (l.key tenantId) = some cached ∧ s.now < cached.expiresAt)
      ∨ ∃ load w result, s.cache.inFlight.get? (l.key tenantId) = some load
        ∧ s.work[load]? = some w ∧ w.read = some result := by
  simp only [ListSystem.holds, Bool.or_eq_true]
  apply or_congr
  · cases s.cache.entries.get? (l.key tenantId) with
    | none => simp
    | some cached => simp
  cases s.cache.inFlight.get? (l.key tenantId) with
  | none => simp
  | some load =>
    cases hwork : s.work[load]? with
    | none => simp [hwork]
    | some w => simp [hwork, Option.isSome_iff_exists]

/-- **A mutator keeps lists fresh exactly when it changes none that is held and that it does not
invalidate.** -/
theorem fresh_mutate_iff (h : ∀ l, FreshAt env tenantId s l) (m : AcademicMutation) :
    (∀ l, FreshAt env tenantId (listSystemStep env listTtl tenantId (.mutate m) s) l)
      ↔ Undisturbed env tenantId s (.mutate m) := by
  have hleft : ∀ l : AcademicList, covers env tenantId s.now m s.store l = false →
      (dropLists tenantId (m.drops env s.now s.store) s.cache).entries.get? (l.key tenantId)
          = s.cache.entries.get? (l.key tenantId)
        ∧ (dropLists tenantId (m.drops env s.now s.store) s.cache).inFlight.get? (l.key tenantId)
          = s.cache.inFlight.get? (l.key tenantId) := by
    intro l hcovers
    obtain ⟨hentries, hslots⟩ := dropLists_get? tenantId
      (m.drops env s.now s.store) s.cache (l.key tenantId)
    rw [covers] at hcovers
    rw [hentries, hslots, hcovers]
    exact ⟨rfl, rfl⟩
  constructor
  · intro hfresh l hcovers
    obtain ⟨hentries, hslots⟩ := hleft l hcovers
    constructor
    · intro _ hholds
      rcases holds_iff.1 hholds with
        ⟨cached, hcached, hlive⟩ | ⟨load, w, result, hslot, hwork, hread⟩
      · exact ((hfresh l).cached cached (hentries.trans hcached) hlive).symm.trans
          ((h l).cached cached hcached hlive)
      have hafter := (hfresh l).pending load w (hslots.trans hslot) hwork
      have hbefore := (h l).pending load w hslot hwork
      rw [ListWork.outcome, hread] at hafter hbefore
      exact hafter.symm.trans hbefore
    intro load w hslot hwork hunread
    have houtcome := (hfresh l).pending load w (hslots.trans hslot) hwork
    rw [ListWork.outcome, hunread] at houtcome
    exact houtcome
  intro hkept l
  cases hcovers : covers env tenantId s.now m s.store l with
  | true =>
    -- nothing is left under its key
    rw [covers] at hcovers
    obtain ⟨hentries, hslots⟩ := dropLists_get? tenantId
      (m.drops env s.now s.store) s.cache (l.key tenantId)
    rw [hcovers, if_pos rfl] at hentries hslots
    constructor
    · intro cached hcached
      cases hentries.symm.trans hcached
    intro load w hslot
    cases hslots.symm.trans hslot
  | false =>
    obtain ⟨hentries, hslots⟩ := hleft l hcovers
    obtain ⟨hheld, hunread⟩ := hkept l hcovers
    have hsame : s.holds tenantId l = true →
        l.uncached env (m.apply env s.now s.store) = l.uncached env s.store := by
      intro hholds
      cases hforgets : forgets env tenantId s.now m s.store l with
      | true => exact hheld hforgets hholds
      | false => exact uncached_of_not_forgets hcovers hforgets
    constructor
    · intro cached hcached hlive
      have hcached' : s.cache.entries.get? (l.key tenantId) = some cached :=
        hentries.symm.trans hcached
      have hholds : s.holds tenantId l = true := holds_iff.2 (Or.inl ⟨cached, hcached', hlive⟩)
      exact ((h l).cached cached hcached' hlive).trans (hsame hholds).symm
    intro load w hslot hwork
    have hslot' : s.cache.inFlight.get? (l.key tenantId) = some load :=
      hslots.symm.trans hslot
    have hwork' : s.work[load]? = some w := hwork
    cases hread : w.read with
    | none =>
      rw [ListWork.outcome, hread]
      exact hunread load w hslot' hwork' hread
    | some result =>
      have hholds : s.holds tenantId l = true :=
        holds_iff.2 (Or.inr ⟨load, w, result, hslot', hwork', hread⟩)
      have hpending := (h l).pending load w hslot' hwork'
      rw [ListWork.outcome, hread] at hpending ⊢
      exact hpending.trans (hsame hholds).symm

/-- **One step keeps lists fresh exactly when it disturbs none.** -/
theorem fresh_step_iff (h : ListsFresh env tenantId s) (ht : ListsTracked s) (e : ListEvent) :
    ListsFresh env tenantId (listSystemStep env listTtl tenantId e s)
      ↔ Undisturbed env tenantId s e := by
  rw [listsFresh_iff] at h ⊢
  cases e with
  | list l force => exact fresh_callList h ht force
  | mutate m => exact fresh_mutate_iff h m
  | read load => exact iff_of_true (fun l => fresh_readList (h l) load) trivial
  | finish load => exact iff_of_true (fun l => fresh_finishList h ht load l) trivial
  | settle load => exact iff_of_true (fun l => fresh_settle (h l) listTtl load) trivial
  | refresh => exact iff_of_true (fun l => fresh_invalidate (h l) _) trivial
  | pass elapsed =>
    refine iff_of_true (fun l => ?_) trivial
    refine (h l).of_fewer rfl ?_ fun load w hslot hwork => ⟨w, hslot, hwork, rfl⟩
    intro cached hcached hlive
    have hlive' : s.now + elapsed < cached.expiresAt := hlive
    have hnow : s.now ≤ s.now + elapsed := le_add_of_nonneg_right (Int.natCast_nonneg _)
    exact ⟨cached, hcached, lt_of_le_of_lt hnow hlive', rfl⟩

end Held

/-! ## Runs -/

/-- **When academic lists are read-your-writes**: throughout a run of list calls, their loads and
mutators, from an empty cache, every list call is given what the database gives exactly when no
step disturbs a list. -/
theorem academic_lists_iff (env : AcademicEnv) (listTtl : Time) (tenantId : String) (now : Time)
    (store : AcademicStore) (es : List ListEvent) :
    (∀ pre, pre <+: es →
        ListsFresh env tenantId (run (listSystemStep env listTtl tenantId) { now, store } pre))
      ↔ Along (listSystemStep env listTtl tenantId) (Undisturbed env tenantId) { now, store } es := by
  have hstart : ListsFresh env tenantId { now, store } := by
    rw [listsFresh_iff]
    intro l
    constructor
    · intro cached hcached
      cases hcached
    intro load w hslot
    cases hslot
  have htracked : ListsTracked { now, store } :=
    ⟨listTracked_start, keepsOut_start, guarded_start, rfl⟩
  have hevents : Along (listSystemStep env listTtl tenantId) (fun _ _ => True) { now, store } es :=
    along_of_forall (D := fun _ => True) fun _ _ => trivial
  exact (along_iff_throughout_with (fun s e _ _ ht => listsTracked_step e ht)
    (fun s e _ h ht => fresh_step_iff h ht e) hevents hstart htracked).symm

namespace Example

/-- A school with a session, its term, a class, a subject and a result that waits for approval. -/
def openSchool : AcademicStore :=
  { calendar :=
      { sessions := ⟨[⟨"2024", "2024/2025", none, none, true⟩], List.nodup_singleton _⟩
        terms := ⟨[⟨"t1", "2024", "First Term", "first", none, none, true⟩],
          List.nodup_singleton _⟩ }
    classes := ⟨[{ id := "a", name := "JSS 1", code := "JSS1", schoolLevel := "jss" }],
      List.nodup_singleton _⟩
    subjects :=
      ⟨[{ id := "maths", name := "Maths", code := "MTH", schoolLevel := "jss"
          classIds := ["a"] }], List.nodup_singleton _⟩
    records :=
      { users := [{ id := "head", name := "Ada", roles := [.director] },
          { id := "pupil", name := "Ben", roles := [.student] }]
        results :=
          [some
            { studentId := some "pupil", classId := "a", subjectId := "maths", termId := "t1"
              caScore := none, examScore := none, totalScore := none, grade := none
              status := .submitted }] } }

/-- A list is loaded, and then a mutator runs. -/
def loadThen (l : AcademicList) (m : AcademicMutation) : List ListEvent :=
  [.list l false, .read 0, .finish 0, .settle 0, .mutate m]

def forgotten : List (AcademicList × AcademicMutation) :=
  [(.terms none, .calendar (.deleteSession "2024")),
    (.subjects "head" true, .deleteSubject "maths"),
    (.subjects "head" true, .updateClass "a" { name := some "JSS 1A" }),
    (.classes "head" false, .repairDefaultStructure id),
    (.results "head", .results (.approveResult 0 (some "head") none)),
    (.results "head", .results (.deleteResult 0))]

end Example

/-- Academic lists are not always read-your-writes: a list that is loaded is given as it was, once
a mutator that forgets it has changed it. -/
theorem not_academic_lists_fresh :
    Example.forgotten ≠ [] ∧ ∀ pair ∈ Example.forgotten,
      ¬ ListsFresh {} "a" (run (listSystemStep {} (Time.seconds 45) "a")
        { store := Example.openSchool } (Example.loadThen pair.1 pair.2)) := by
  refine ⟨by decide, ?_⟩
  have hstale : ∀ pair ∈ Example.forgotten,
      (run (listSystemStep {} (Time.seconds 45) "a") { store := Example.openSchool }
        (Example.loadThen pair.1 pair.2)).answer {} "a" pair.1 false
      ≠ pair.1.uncached {} (run (listSystemStep {} (Time.seconds 45) "a")
        { store := Example.openSchool } (Example.loadThen pair.1 pair.2)).store := by
    decide +kernel
  intro pair hpair hfresh
  exact hstale pair hpair (hfresh pair.1 false)

end MultiAcademy.School
