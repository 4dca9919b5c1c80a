import MultiAcademy.Control.Schema
import MultiAcademy.Lib.OrderedMap
import MultiAcademy.Lib.Run

/-!
# The runtime-config cache

`build_runtime_config` and the caches of `services/runtime_config.py`, with the
invalidation of `bump_config_version`, as a system of readers and writers in one process.
Every query and every region under `_runtime_lock` is a step of its own, and the steps of
any number of requests interleave.

The database is what has been committed, the latest last.  What a query returns is a
function of the committed database it sees, so a query is represented by the number of
databases committed when it ran, and a payload by those of its queries: it includes a
change when none of its queries ran before the commit of the change.
-/

namespace MultiAcademy.Control.RuntimeCache

open MultiAcademy.Lib

/-! ## Queries and caches -/

/-- The queries of `_get_catalog_snapshot`. -/
inductive CatalogQuery
  | flags | rollouts | deprecated | meters | maintenanceWindows | providerConfigs
  | failoverPolicies
  deriving DecidableEq

/-- In the order they are made. -/
def catalogQueries : List CatalogQuery :=
  [.flags, .rollouts, .deprecated, .meters, .maintenanceWindows, .providerConfigs,
    .failoverPolicies]

/-- The queries of `_build_runtime_config_uncached` for one tenant.  Some depend on the
tenant's subscription; all of them are made here. -/
inductive TenantQuery
  | overrides | featureSubscription | featurePlan | planEntitlements | blocks
  | enforcementTrial | trial | subscription | plan | domains | feeSplits | payrollAccounts
  | contextBindings | gatewayToggles | tutoringPolicy | usageRollups
  deriving DecidableEq

/-- In the order they are made. -/
def tenantQueries : List TenantQuery :=
  [.overrides, .featureSubscription, .featurePlan, .planEntitlements, .blocks,
    .enforcementTrial, .trial, .subscription, .plan, .domains, .feeSplits, .payrollAccounts,
    .contextBindings, .gatewayToggles, .tutoringPolicy, .usageRollups]

/-- What the version query returned, and what it saw. -/
structure Version where
  number : ℕ
  seen : ℕ
  deriving DecidableEq

/-- What a school is sent: what each of its queries saw. -/
structure Payload where
  tenant : ℕ
  version : Version
  catalog : List (CatalogQuery × ℕ)
  rows : List (TenantQuery × ℕ)

def Payload.seen (p : Payload) : List ℕ :=
  p.tenant :: p.version.seen :: p.catalog.map Prod.snd ++ p.rows.map Prod.snd

/-- An entry of `_runtime_cache`. -/
structure RuntimeEntry where
  storedAt : Time
  version : ℕ
  payload : Payload

/-- `_CatalogSnapshot`. -/
structure Snapshot where
  version : ℕ
  rows : List (CatalogQuery × ℕ)

/-- `_runtime_cache`, `_version_cache` and `_catalog_snapshot`. -/
structure Caches where
  runtime : OrderedMap ℕ RuntimeEntry := .empty
  version : Option (Time × Version) := none
  catalog : Option Snapshot := none

/-- What the queries behind everything cached saw. -/
def Caches.seen (c : Caches) : List ℕ :=
  c.runtime.entries.flatMap (fun e => e.2.payload.seen)
    ++ c.version.toList.map (fun v => v.2.seen)
    ++ c.catalog.toList.flatMap fun s => s.rows.map Prod.snd

def versionCacheTtl : Time := Time.seconds 3

/-- Bound memory: drop the oldest entries when the map grows large. -/
def prune (runtime : OrderedMap ℕ RuntimeEntry) : OrderedMap ℕ RuntimeEntry :=
  if 2000 < runtime.size then runtime.drop 500 else runtime

/-! ## A request -/

/-- Where a request is in `build_runtime_config`. -/
inductive Phase
  /-- The endpoint has loaded the tenant's row. -/
  | loaded
  | missed (nowMono : Time)
  | versionMissed (nowMono asked : Time)
  | versionRead (nowMono asked : Time) (version : Version)
  | versioned (nowMono : Time) (version : Version)
  | missedAgain (nowMono : Time) (version : Version)
  | snapshotting (nowMono : Time) (version : Version) (catalog : List (CatalogQuery × ℕ))
      (left : List CatalogQuery)
  | building (nowMono : Time) (version : Version) (catalog : List (CatalogQuery × ℕ))
      (rows : List (TenantQuery × ℕ)) (left : List TenantQuery)
  | done (payload : Payload)

/-- A request; `started` is the number of databases committed when it arrived. -/
structure Read where
  tenantId : ℕ
  started : ℕ
  tenant : ℕ
  phase : Phase

/-- What the queries of a request have seen so far. -/
def Phase.seen : Phase → List ℕ
  | .loaded | .missed _ | .versionMissed _ _ => []
  | .versionRead _ _ version | .versioned _ version | .missedAgain _ version => [version.seen]
  | .snapshotting _ version catalog _ => version.seen :: catalog.map Prod.snd
  | .building _ version catalog rows _ =>
    version.seen :: catalog.map Prod.snd ++ rows.map Prod.snd
  | .done payload => payload.seen

/-- The next step of a request, when `seen` databases are committed and the last one has
this `version`. -/
def advance (ttl now : Time) (seen version : ℕ) (r : Read) (c : Caches) : Phase × Caches :=
  match r.phase with
  | .loaded =>
    match c.runtime.get? r.tenantId with
    | some e => if now - e.storedAt < ttl then (.done e.payload, c) else (.missed now, c)
    | none => (.missed now, c)
  | .missed nowMono =>
    match c.version with
    | some (storedAt, v) =>
      if now - storedAt < versionCacheTtl then (.versioned nowMono v, c)
      else (.versionMissed nowMono now, c)
    | none => (.versionMissed nowMono now, c)
  | .versionMissed nowMono asked => (.versionRead nowMono asked ⟨version, seen⟩, c)
  | .versionRead nowMono asked v => (.versioned nowMono v, { c with version := some (asked, v) })
  | .versioned nowMono v =>
    match c.runtime.get? r.tenantId with
    | some e =>
      if e.version = v.number ∧ nowMono - e.storedAt < ttl then (.done e.payload, c)
      else (.missedAgain nowMono v, c)
    | none => (.missedAgain nowMono v, c)
  | .missedAgain nowMono v =>
    match c.catalog with
    | some s =>
      if s.version = v.number then (.building nowMono v s.rows [] tenantQueries, c)
      else (.snapshotting nowMono v [] catalogQueries, c)
    | none => (.snapshotting nowMono v [] catalogQueries, c)
  | .snapshotting nowMono v catalog (q :: left) =>
    (.snapshotting nowMono v (catalog ++ [(q, seen)]) left, c)
  | .snapshotting nowMono v catalog [] =>
    (.building nowMono v catalog [] tenantQueries,
      if c.catalog.any fun s => s.version = v.number then c
      else { c with catalog := some ⟨v.number, catalog⟩ })
  | .building nowMono v catalog rows (q :: left) =>
    (.building nowMono v catalog (rows ++ [(q, seen)]) left, c)
  | .building nowMono v catalog rows [] =>
    let payload : Payload := { tenant := r.tenant, version := v, catalog, rows }
    (.done payload,
      { c with runtime := prune (c.runtime.set r.tenantId ⟨nowMono, v.number, payload⟩) })
  | .done payload => (.done payload, c)

/-- What the queries behind the next store of a request saw. -/
def Read.stores (r : Read) (c : Caches) : List ℕ :=
  match r.phase with
  | .versionRead _ _ v => [v.seen]
  | .snapshotting _ v catalog [] =>
    if c.catalog.any fun s => s.version = v.number then [] else catalog.map Prod.snd
  | .building _ v catalog rows [] =>
    ({ tenant := r.tenant, version := v, catalog, rows } : Payload).seen
  | _ => []

/-! ## The system -/

/-- What can happen; a writer's request bumps the version, and commits or rolls back. -/
inductive CacheEvent (δ : Type)
  | arrive (reader tenantId : ℕ)
  | read (reader : ℕ) (now : Time)
  | bump (writer : ℕ)
  | commit (writer : ℕ) (db : δ)
  | rollback (writer : ℕ)

/-- The committed databases, the process' caches, the requests, and the writers that have
invalidated the caches and not committed yet. -/
structure State (δ : Type) where
  committed : List δ
  caches : Caches := {}
  reads : ℕ → Option Read := fun _ => none
  bumped : ℕ → Bool := fun _ => false

variable {δ : Type}

/-- The number of committed databases. -/
def State.seen (s : State δ) : ℕ := s.committed.length

def currentConfigVersion (versionOf : δ → ℕ) (s : State δ) : ℕ :=
  (s.committed.getLast?.map versionOf).getD 1

def cacheStep (ttl : Time) (versionOf : δ → ℕ) (e : CacheEvent δ) (s : State δ) : State δ :=
  match e with
  | .arrive reader tenantId =>
    { s with
      reads := Function.update s.reads reader
        (some { tenantId, started := s.seen, tenant := s.seen, phase := .loaded }) }
  | .read reader now =>
    match s.reads reader with
    | none => s
    | some r =>
      let next := advance ttl now s.seen (currentConfigVersion versionOf s) r s.caches
      { s with
        reads := Function.update s.reads reader (some { r with phase := next.1 })
        caches := next.2 }
  | .bump writer => { s with caches := {}, bumped := Function.update s.bumped writer true }
  | .commit writer db =>
    if s.bumped writer then
      { s with
        committed := s.committed ++ [db]
        bumped := Function.update s.bumped writer false }
    else s
  | .rollback writer => { s with bumped := Function.update s.bumped writer false }

/-- Nobody has asked yet. -/
def State.start (committed : List δ) : State δ := { committed }

/-- Nothing that was read before the last commit is cached. -/
def Coherent (s : State δ) : Prop := ∀ n ∈ s.caches.seen, n = s.seen

/-- The step keeps what was read before a commit out of the caches: a request stores only
what it read since the last commit, and a writer commits while nothing is cached. -/
def keepsOut (s : State δ) : CacheEvent δ → Bool
  | .read reader _ =>
    (s.reads reader).all fun r => (r.stores s.caches).all fun n => n = s.seen
  | .commit writer _ => !s.bumped writer || s.caches.seen.isEmpty
  | _ => true

/-! ## One step -/

variable {ttl : Time} {versionOf : δ → ℕ} {s : State δ}

theorem mem_seen {c : Caches} {n : ℕ} :
    n ∈ c.seen ↔ (∃ e ∈ c.runtime.entries, n ∈ e.2.payload.seen)
      ∨ (∃ v, c.version = some v ∧ n = v.2.seen)
      ∨ ∃ snapshot, c.catalog = some snapshot ∧ n ∈ snapshot.rows.map Prod.snd := by
  simp only [Caches.seen, List.mem_append, List.mem_flatMap, List.mem_map, Option.mem_toList,
    or_assoc, eq_comm (a := n)]

/-- The cache of payloads stays bounded. -/
def Bounded (c : Caches) : Prop := c.runtime.size ≤ 2000

theorem mem_of_prune {runtime : OrderedMap ℕ RuntimeEntry} {e : ℕ × RuntimeEntry}
    (h : e ∈ (prune runtime).entries) : e ∈ runtime.entries := by
  simp only [prune] at h
  split at h
  · exact List.mem_of_mem_drop h
  · exact h

/-- A payload is not pruned by its own store, and the cache stays bounded. -/
theorem prune_set {runtime : OrderedMap ℕ RuntimeEntry} (h : runtime.size ≤ 2000) (t : ℕ)
    (entry : RuntimeEntry) :
    (t, entry) ∈ (prune (runtime.set t entry)).entries
      ∧ (prune (runtime.set t entry)).size ≤ 2000 := by
  have hmem : (t, entry) ∈ (runtime.set t entry).entries :=
    OrderedMap.mem_set.2 (Or.inl rfl)
  simp only [prune]
  rcases runtime.set_cases t entry with hsize | hentries
  · rw [if_neg (by omega)]
    exact ⟨hmem, by omega⟩
  have hlength : (runtime.set t entry).size = runtime.size + 1 := by
    rw [OrderedMap.size, hentries]
    simp [OrderedMap.size]
  split
  · rename_i hlarge
    refine ⟨?_, ?_⟩
    · -- the new entry is the last one
      have hlast : 500 ≤ runtime.entries.length := by
        simp only [OrderedMap.size] at h hlarge hlength ⊢
        omega
      rw [OrderedMap.entries_drop, hentries, List.drop_append_of_le_length hlast]
      exact List.mem_append_right _ (List.mem_singleton_self _)
    simp only [OrderedMap.size, OrderedMap.entries_drop, List.length_drop] at h hlength ⊢
    omega
  · exact ⟨hmem, by omega⟩

section Advance
variable (ttl now : Time) (seen version : ℕ) (r : Read) (c : Caches)

/-- What a step has seen was seen before, is in a cache, or is the last commit. -/
theorem mem_advance_seen {n : ℕ} (h : n ∈ (advance ttl now seen version r c).1.seen) :
    n = r.tenant ∨ n ∈ r.phase.seen ∨ n = seen ∨ n ∈ c.seen := by
  have hpayload : ∀ e, c.runtime.get? r.tenantId = some e → n ∈ e.payload.seen → n ∈ c.seen := by
    intro e hget hn
    exact mem_seen.2 (Or.inl ⟨_, OrderedMap.get?_eq_some.1 hget, hn⟩)
  simp only [advance] at h
  cases hphase : r.phase with
  | loaded =>
    cases hget : c.runtime.get? r.tenantId with
    | none => simp [hphase, hget, Phase.seen] at h
    | some e =>
      simp only [hphase, hget] at h
      split at h
      · exact Or.inr (Or.inr (Or.inr (hpayload e hget h)))
      · cases h
  | missed nowMono =>
    cases hversion : c.version with
    | none => simp [hphase, hversion, Phase.seen] at h
    | some v =>
      simp only [hphase, hversion] at h
      split at h
      · rw [Phase.seen, List.mem_singleton] at h
        exact Or.inr (Or.inr (Or.inr (mem_seen.2 (Or.inr (Or.inl ⟨v, hversion, h⟩)))))
      · cases h
  | versionMissed nowMono asked =>
    simp only [hphase, Phase.seen, List.mem_singleton] at h
    exact Or.inr (Or.inr (Or.inl h))
  | versionRead nowMono asked v =>
    simp only [hphase] at h
    exact Or.inr (Or.inl h)
  | versioned nowMono v =>
    cases hget : c.runtime.get? r.tenantId with
    | none =>
      simp only [hphase, hget] at h
      exact Or.inr (Or.inl h)
    | some e =>
      simp only [hphase, hget] at h
      split at h
      · exact Or.inr (Or.inr (Or.inr (hpayload e hget h)))
      · exact Or.inr (Or.inl h)
  | missedAgain nowMono v =>
    cases hcatalog : c.catalog with
    | none =>
      simp only [hphase, hcatalog] at h
      exact Or.inr (Or.inl h)
    | some snapshot =>
      simp only [hphase, hcatalog] at h
      split at h
      · simp only [Phase.seen, List.map_nil, List.append_nil, List.mem_cons] at h
        rcases h with h | h
        · exact Or.inr (Or.inl (by simp [Phase.seen, h]))
        · exact Or.inr (Or.inr (Or.inr (mem_seen.2 (Or.inr (Or.inr ⟨snapshot, hcatalog, h⟩)))))
      · exact Or.inr (Or.inl h)
  | snapshotting nowMono v catalog left =>
    cases left with
    | nil =>
      simp only [hphase] at h
      exact Or.inr (Or.inl (by simpa [Phase.seen] using h))
    | cons q left =>
      simp only [hphase, Phase.seen, List.map_append, List.mem_cons, List.mem_append,
        List.map_singleton, List.not_mem_nil, or_false] at h ⊢
      rcases h with h | h | h
      · exact Or.inr (Or.inl (Or.inl h))
      · exact Or.inr (Or.inl (Or.inr h))
      · exact Or.inr (Or.inr (Or.inl h))
  | building nowMono v catalog rows left =>
    cases left with
    | nil =>
      simp only [hphase, Phase.seen, Payload.seen, List.mem_append, List.mem_cons] at h ⊢
      tauto
    | cons q left =>
      simp only [hphase, Phase.seen, List.map_append, List.mem_cons, List.mem_append,
        List.map_singleton, List.not_mem_nil, or_false] at h ⊢
      tauto
  | done payload =>
    simp only [hphase] at h
    exact Or.inr (Or.inl h)

/-- A step stores what `Read.stores` says, over what was cached. -/
theorem mem_advance_caches {n : ℕ} (h : n ∈ (advance ttl now seen version r c).2.seen) :
    n ∈ c.seen ∨ n ∈ r.stores c := by
  simp only [advance] at h
  cases hphase : r.phase with
  | loaded | missed | versioned | missedAgain =>
    simp only [hphase] at h
    split at h
    · split at h <;> exact Or.inl h
    · exact Or.inl h
  | versionMissed | done =>
    simp only [hphase] at h
    exact Or.inl h
  | versionRead nowMono asked v =>
    simp only [hphase, Read.stores, mem_seen] at h ⊢
    rcases h with h | ⟨_, ⟨⟩, rfl⟩ | h
    · exact Or.inl (Or.inl h)
    · exact Or.inr (List.mem_singleton_self _)
    · exact Or.inl (Or.inr (Or.inr h))
  | snapshotting nowMono v catalog left =>
    cases left with
    | cons q left =>
      simp only [hphase] at h
      exact Or.inl h
    | nil =>
      simp only [hphase, Read.stores] at h ⊢
      by_cases hhas : (c.catalog.any fun s => s.version = v.number) = true
      · rw [if_pos hhas] at h
        exact Or.inl h
      rw [if_neg hhas] at h ⊢
      rw [mem_seen] at h ⊢
      rcases h with h | h | ⟨_, ⟨⟩, h⟩
      · exact Or.inl (Or.inl h)
      · exact Or.inl (Or.inr (Or.inl h))
      · exact Or.inr h
  | building nowMono v catalog rows left =>
    cases left with
    | cons q left =>
      simp only [hphase] at h
      exact Or.inl h
    | nil =>
      simp only [hphase, Read.stores, mem_seen] at h ⊢
      rcases h with ⟨e, he, hn⟩ | h | h
      · rcases OrderedMap.mem_set.1 (mem_of_prune he) with rfl | ⟨-, he⟩
        · exact Or.inr hn
        · exact Or.inl (Or.inl ⟨e, he, hn⟩)
      · exact Or.inl (Or.inr (Or.inl h))
      · exact Or.inl (Or.inr (Or.inr h))

theorem mem_caches_of_stores (hb : Bounded c) {n : ℕ} (h : n ∈ r.stores c) :
    n ∈ (advance ttl now seen version r c).2.seen := by
  simp only [Read.stores] at h
  split at h
  · rename_i nowMono asked v hphase
    simp only [advance, hphase]
    rw [List.mem_singleton] at h
    exact mem_seen.2 (Or.inr (Or.inl ⟨_, rfl, h⟩))
  · rename_i nowMono v catalog hphase
    split at h
    · cases h
    rename_i hhas
    simp only [advance, hphase, if_neg hhas]
    exact mem_seen.2 (Or.inr (Or.inr ⟨_, rfl, h⟩))
  · rename_i nowMono v catalog rows hphase
    simp only [advance, hphase]
    exact mem_seen.2 (Or.inl ⟨_, (prune_set hb r.tenantId _).1, h⟩)
  · cases h

theorem bounded_advance (hb : Bounded c) : Bounded (advance ttl now seen version r c).2 := by
  simp only [advance]
  split
  all_goals try split
  all_goals try split
  all_goals first
    | exact hb
    | exact (prune_set hb r.tenantId _).2

end Advance

/-- **A step keeps the caches coherent exactly when it keeps old reads out of them.** -/
theorem cacheStep_coherent {e : CacheEvent δ} (hb : Bounded s.caches) (h : Coherent s) :
    Coherent (cacheStep ttl versionOf e s) ↔ keepsOut s e = true := by
  cases e with
  | arrive reader tenantId => exact iff_of_true h rfl
  | bump writer =>
    refine iff_of_true ?_ rfl
    intro n hn
    cases hn
  | rollback writer => exact iff_of_true h rfl
  | read reader now =>
    simp only [cacheStep, keepsOut]
    cases hread : s.reads reader with
    | none => exact iff_of_true h rfl
    | some r =>
      simp only [Option.all_some, List.all_eq_true, decide_eq_true_eq]
      constructor
      · intro hafter n hn
        exact hafter n (mem_caches_of_stores ttl now s.seen _ r s.caches hb hn)
      intro hstores n hn
      rcases mem_advance_caches ttl now s.seen _ r s.caches hn with hold | hnew
      · exact h n hold
      · exact hstores n hnew
  | commit writer db =>
    by_cases hbumped : s.bumped writer = true
    · simp only [cacheStep, keepsOut, hbumped, if_true, Bool.not_true, Bool.false_or,
        List.isEmpty_iff]
      have hseen : ∀ n, n ∈ s.caches.seen → n = s.committed.length := h
      constructor
      · intro hafter
        -- what is cached was the last commit before, and would have to be the new one
        rw [List.eq_nil_iff_forall_not_mem]
        intro n hn
        have hnew : n = (s.committed ++ [db]).length := hafter n hn
        have hold := hseen n hn
        rw [List.length_append, List.length_singleton] at hnew
        omega
      intro hempty n hn
      rw [hempty] at hn
      cases hn
    · simpa [cacheStep, keepsOut, hbumped] using h

theorem cacheStep_bounded {e : CacheEvent δ} (hb : Bounded s.caches) :
    Bounded (cacheStep ttl versionOf e s).caches := by
  cases e with
  | arrive reader tenantId => exact hb
  | bump writer => exact Nat.zero_le _
  | rollback writer => exact hb
  | read reader now =>
    simp only [cacheStep]
    cases s.reads reader with
    | none => exact hb
    | some r => exact bounded_advance ttl now s.seen _ r s.caches hb
  | commit writer db =>
    simp only [cacheStep]
    split <;> exact hb

/-- Everything a request has seen was committed when it arrived, or later. -/
def Served (s : State δ) : Prop :=
  ∀ reader r, s.reads reader = some r →
    r.started ≤ s.seen ∧ r.started ≤ r.tenant ∧ ∀ n ∈ r.phase.seen, r.started ≤ n

theorem cacheStep_served {e : CacheEvent δ} (h : Coherent s) (hserved : Served s) :
    Served (cacheStep ttl versionOf e s) := by
  cases e with
  | arrive reader tenantId =>
    intro reader' r hr
    simp only [cacheStep, Function.update_apply] at hr
    by_cases hid : reader' = reader
    · rw [if_pos hid] at hr
      cases hr
      exact ⟨Nat.le_refl _, Nat.le_refl _, fun n hn => by cases hn⟩
    rw [if_neg hid] at hr
    exact hserved reader' r hr
  | bump writer => exact hserved
  | rollback writer => exact hserved
  | read reader now =>
    simp only [cacheStep]
    cases hread : s.reads reader with
    | none => exact hserved
    | some r =>
      obtain ⟨hseen, htenant, hphase⟩ := hserved reader r hread
      intro reader' r' hr
      simp only [Function.update_apply] at hr
      by_cases hid : reader' = reader
      · rw [if_pos hid] at hr
        cases hr
        refine ⟨hseen, htenant, ?_⟩
        intro n hn
        rcases mem_advance_seen ttl now s.seen _ r s.caches hn with rfl | hold | rfl | hcached
        · exact htenant
        · exact hphase n hold
        · exact hseen
        rw [h n hcached]
        exact hseen
      rw [if_neg hid] at hr
      exact hserved reader' r' hr
  | commit writer db =>
    simp only [cacheStep]
    split
    · intro reader r hr
      obtain ⟨hseen, hrest⟩ := hserved reader r hr
      refine ⟨?_, hrest⟩
      simp only [State.seen, List.length_append, List.length_singleton] at hseen ⊢
      omega
    · exact hserved

/-! ## Runs -/

/-- Every finished request was sent a payload all of whose queries ran on what was
committed when it arrived, or later. -/
def ServesCurrent (s : State δ) : Prop :=
  ∀ reader r payload, s.reads reader = some r → r.phase = .done payload →
    ∀ n ∈ payload.seen, r.started ≤ n

/-- **The caches are coherent throughout a run, and every request is sent what was
committed when it arrived, exactly when no request stores what it read before a commit and
no writer commits while something is cached.** -/
theorem config_coherent_iff (ttl : Time) (versionOf : δ → ℕ) (committed : List δ)
    (es : List (CacheEvent δ)) :
    (∀ pre, pre <+: es → Coherent (run (cacheStep ttl versionOf) (.start committed) pre)
        ∧ ServesCurrent (run (cacheStep ttl versionOf) (.start committed) pre))
      ↔ Along (cacheStep ttl versionOf) (fun s e => keepsOut s e = true) (.start committed) es := by
  have hcoherent : Coherent (State.start committed) := by
    intro n hn
    cases hn
  have hkept : Bounded (State.start committed).caches ∧ Served (State.start committed) := by
    refine ⟨Nat.zero_le _, ?_⟩
    intro reader r hr
    cases hr
  have hstep : ∀ (s : State δ) (e : CacheEvent δ), True → Coherent s →
      Bounded s.caches ∧ Served s → Bounded (cacheStep ttl versionOf e s).caches
        ∧ Served (cacheStep ttl versionOf e s) := by
    rintro s e - hc ⟨hb, hs⟩
    exact ⟨cacheStep_bounded hb, cacheStep_served hc hs⟩
  have hiff : Along (cacheStep ttl versionOf) (fun s e => keepsOut s e = true) (.start committed) es
      ↔ ∀ pre, pre <+: es → Coherent (run (cacheStep ttl versionOf) (.start committed) pre) :=
    along_iff_throughout_with hstep (fun _ _ _ hc h => cacheStep_coherent h.1 hc)
      (along_of_forall fun _ _ => trivial) hcoherent hkept
  constructor
  · intro h
    exact hiff.2 fun pre hpre => (h pre hpre).1
  intro h pre hpre
  have hall := hiff.1 h
  obtain ⟨-, hs⟩ := throughout_of hstep (along_of_forall fun _ _ => trivial) hall hkept pre hpre
  refine ⟨hall pre hpre, ?_⟩
  intro reader r payload hr hphase n hn
  exact (hs reader r hr).2.2 n (by rw [hphase]; exact hn)

/-! ## A reader that overlaps a writer -/

/-- A request is answered and cached between a writer's invalidation and its commit; a
later request arrives after the commit. -/
def overlap : List (CacheEvent Db) :=
  [.arrive 0 0, .bump 0] ++ List.replicate 31 (.read 0 0)
    ++ [.commit 0 { configVersion := 2 }, .arrive 1 0, .read 1 (Time.seconds 1)]

/-- The later request is sent a payload from before the commit, out of the cache. -/
theorem not_config_coherent :
    ¬ ∀ (ttl : Time) (committed : List Db) (es : List (CacheEvent Db)),
      ServesCurrent (run (cacheStep ttl Db.configVersion) (.start committed) es) := by
  intro h
  have hstale : ∃ r payload,
      (run (cacheStep (Time.seconds 60) Db.configVersion) (.start [{}]) overlap).reads 1 = some r
        ∧ r.phase = .done payload ∧ payload.tenant < r.started := by
    refine ⟨_, _, rfl, rfl, ?_⟩
    decide
  obtain ⟨r, payload, hread, hphase, hlt⟩ := hstale
  have hserved := h (Time.seconds 60) [{}] overlap 1 r payload hread hphase payload.tenant
    (by rw [Payload.seen]; exact List.mem_cons_self)
  omega

end MultiAcademy.Control.RuntimeCache
