import MultiAcademy.Control.ConfigChanges
import MultiAcademy.Control.RuntimeCache

/-!
# The config version and what is cached under it

`build_runtime_config` with its three caches, between the mutations of what a config is built
from.  The snapshot of the catalogue is kept for as long as the version stays, and
`bump_config_version` is all that moves the version and clears the caches; so a mutation that
shows in a payload has to bump.

Requests are handled one at a time here; a reader that overlaps a writer is the subject of
`MultiAcademy.Control.RuntimeCache`.
-/

namespace MultiAcademy.Control

open MultiAcademy.Lib

/-! ## The caches -/

/-- An entry of `_runtime_cache`. -/
structure ConfigEntry where
  storedAt : Time
  version : ℕ
  payload : RuntimePayload

/-- `_runtime_cache`, `_version_cache` and `_catalog_snapshot`. -/
structure ConfigCaches where
  runtime : OrderedMap ℕ ConfigEntry := .empty
  version : Option (Time × ℕ) := none
  catalog : Option (ℕ × Catalog) := none

/-- The control plane's tables and the caches of its process. -/
structure ConfigPlane where
  store : ConfigStore
  caches : ConfigCaches := {}

def cachedConfigVersion (nowMono : Time) (s : ConfigStore) (caches : ConfigCaches) :
    ℕ × ConfigCaches :=
  match caches.version.filter fun v => nowMono - v.1 < RuntimeCache.versionCacheTtl with
  | some v => (v.2, caches)
  | none => (s.db.configVersion, { caches with version := some (nowMono, s.db.configVersion) })

def getCatalogSnapshot (s : ConfigStore) (version : ℕ) (caches : ConfigCaches) :
    Catalog × ConfigCaches :=
  match caches.catalog.filter fun c => c.1 = version with
  | some c => (c.2, caches)
  | none => (loadCatalog s, { caches with catalog := some (version, loadCatalog s) })

/-- Bound memory: drop the oldest entries when the map grows large. -/
def pruneConfigs (runtime : OrderedMap ℕ ConfigEntry) : OrderedMap ℕ ConfigEntry :=
  if 2000 < runtime.size then runtime.drop 500 else runtime

/-- The entry of a tenant that has not run out. -/
def freshEntry (env : ConfigEnv) (nowMono : Time) (t : ℕ) (caches : ConfigCaches) :
    Option ConfigEntry :=
  (caches.runtime.get? t).filter fun e =>
    nowMono - e.storedAt < Time.seconds env.runtimeConfigTtlSeconds

def buildAndStore (env : ConfigEnv) (nowMono now : Time) (t version : ℕ) (caches : ConfigCaches)
    (s : ConfigStore) : Option RuntimePayload × ConfigCaches :=
  let (catalog, caches) := getCatalogSnapshot s version caches
  match buildRuntimeConfig env catalog s version now t with
  | none => (none, caches)
  | some payload =>
    (some payload,
      { caches with
        runtime := pruneConfigs (caches.runtime.set t ⟨nowMono, version, payload⟩) })

/-- `build_runtime_config`, at a monotonic time and a time of day. -/
def serveConfig (env : ConfigEnv) (nowMono now : Time) (t : ℕ) (p : ConfigPlane) :
    Option RuntimePayload × ConfigCaches :=
  match freshEntry env nowMono t p.caches with
  | some e => (some e.payload, p.caches)
  | none =>
    let (version, caches) := cachedConfigVersion nowMono p.store p.caches
    match (freshEntry env nowMono t caches).filter fun e => e.version = version with
    | some e => (some e.payload, caches)
    | none => buildAndStore env nowMono now t version caches p.store

/-! ## Mutations and reads -/

/-- A mutation.  `bump_config_version` is all that writes the version, and clears the caches
when it does. -/
def mutate (cfg : Settings) (at_ : Time) (staff : StaffContext) (call : ConfigCall)
    (p : ConfigPlane) : ConfigPlane :=
  let store := (respondConfig cfg at_ staff call p.store).store
  { store
    caches := if store.db.configVersion = p.store.db.configVersion then p.caches else {} }

/-- What can happen. -/
inductive PlaneEvent
  | mutation (at_ : Time) (staff : StaffContext) (call : ConfigCall)
  | read (nowMono now : Time) (t : ℕ)

def planeStep (env : ConfigEnv) (cfg : Settings) (e : PlaneEvent) (p : ConfigPlane) :
    ConfigPlane :=
  match e with
  | .mutation at_ staff call => mutate cfg at_ staff call p
  | .read nowMono now t => { p with caches := (serveConfig env nowMono now t p).2 }

def PlaneEvent.slips (env : ConfigEnv) (s : ConfigStore) : PlaneEvent → Bool
  | .mutation _ staff call => Control.slips env staff s call
  | .read _ _ _ => false

/-- **The version tracks a mutation**: if some payload of some tenant, built without a cache at
some time, is another after it, then it has bumped the version and cleared the caches. -/
def Tracks (env : ConfigEnv) (cfg : Settings) (at_ : Time) (staff : StaffContext)
    (call : ConfigCall) (p : ConfigPlane) : Prop :=
  ∀ now t, uncachedConfig env (mutate cfg at_ staff call p).store now t
      ≠ uncachedConfig env p.store now t →
    p.store.db.configVersion < (mutate cfg at_ staff call p).store.db.configVersion
      ∧ (mutate cfg at_ staff call p).caches = {}

/-- Whatever is served, cached or not, is what an uncached build of the tables as they are
returns for the time it was built at. -/
def ServesCurrentConfig (env : ConfigEnv) (p : ConfigPlane) : Prop :=
  ∀ nowMono now t payload, (serveConfig env nowMono now t p).1 = some payload →
    uncachedConfig env p.store payload.updatedAt t = some payload

variable {env : ConfigEnv} {cfg : Settings} {s : ConfigStore} {p : ConfigPlane}

/-! ## One mutation -/

theorem tracks_iff (env : ConfigEnv) (cfg : Settings) (at_ : Time) (staff : StaffContext)
    (call : ConfigCall) (p : ConfigPlane) :
    Tracks env cfg at_ staff call p ↔ slips env staff p.store call = false := by
  constructor
  · intro h
    rw [← Bool.not_eq_true]
    intro hslips
    obtain ⟨hversion, now, t, hne⟩ := respondConfig_of_slips hslips
    have hbumped := (h now t hne).1
    rw [mutate, hversion] at hbumped
    exact Nat.lt_irrefl _ hbumped
  intro h now t hne
  rcases respondConfig_of_not_slips h with hbumped | hsame
  · exact ⟨hbumped, if_neg (Nat.ne_of_gt hbumped)⟩
  · exact absurd (hsame now t) hne

/-! ## What the caches hold -/

/-- A snapshot as good as one taken now, for every tenant there is: a configuration in it may
have another health, where that does not act. -/
structure SameCatalog (s : ConfigStore) (c : Catalog) : Prop where
  features : c.features = (loadCatalog s).features
  deprecated : c.deprecated = (loadCatalog s).deprecated
  meters : c.meters = (loadCatalog s).meters
  maintenanceWindows : c.maintenanceWindows = (loadCatalog s).maintenanceWindows
  providers : ∀ now, ∀ t < s.db.tenants.length,
    resolveProviders c now t = resolveProviders (loadCatalog s) now t

theorem SameCatalog.rfl : SameCatalog s (loadCatalog s) :=
  ⟨Eq.refl _, Eq.refl _, Eq.refl _, Eq.refl _, fun _ _ _ => Eq.refl _⟩

/-- A build from such a snapshot. -/
theorem SameCatalog.build {c : Catalog} (h : SameCatalog s c) (env : ConfigEnv) (now : Time)
    (t : ℕ) :
    buildRuntimeConfig env c s s.db.configVersion now t = uncachedConfig env s now t := by
  rw [uncachedConfig, buildRuntimeConfig, buildRuntimeConfig]
  cases htenant : s.db.tenants[t]? with
  | none => rfl
  | some tenant =>
    have hproviders := h.providers now t (lt_length htenant)
    simp only [Option.map_some, tenantPayload, configFeatures, h.features, h.meters, hproviders,
      resolveMaintenance, h.maintenanceWindows, deprecatedFeatures, h.deprecated]

/-- A snapshot stays as good through a mutation that neither bumps nor slips. -/
theorem SameCatalog.respond {c : Catalog} (h : SameCatalog s c) {at_ : Time} {staff : StaffContext}
    {call : ConfigCall} (hslips : slips env staff s call = false)
    (hversion : (respondConfig cfg at_ staff call s).store.db.configVersion
      = s.db.configVersion) :
    SameCatalog (respondConfig cfg at_ staff call s).store c := by
  by_cases hallowed : call.permission ∈ staff.permissions
  · rw [slips, decide_eq_true hallowed, Bool.true_and] at hslips
    have heffect := respondConfig_effect cfg at_ staff s call
    generalize (respondConfig cfg at_ staff call s).store = s' at heffect hversion ⊢
    have hhealth : ∀ results, healthChanges s.db results = false →
        SameCatalog (s.recordHealth results) c := by
      intro results hquiet
      refine ⟨h.features, h.deprecated, h.meters, h.maintenanceWindows, fun now t hlt => ?_⟩
      rw [h.providers now t hlt, resolveProviders_recordHealth hquiet hlt]
    cases heffect with
    | bumped hbumped => exact absurd hversion (Nat.ne_of_gt hbumped)
    | same db' keys hsame =>
      obtain ⟨htenants, -, -, -, hflags, hconfigs, hpolicies, -⟩ := hsame
      refine ⟨?_, ?_, h.meters, h.maintenanceWindows, ?_⟩
      · rw [h.features]
        simp only [loadCatalog, hflags]
      · rw [h.deprecated]
        simp only [loadCatalog, hflags]
      intro now t hlt
      dsimp only at hlt
      rw [htenants] at hlt
      rw [h.providers now t hlt]
      funext c
      simp only [resolveProviders, loadCatalog, hconfigs, hpolicies]
    | plan i body => exact ⟨h.features, h.deprecated, h.meters, h.maintenanceWindows, h.providers⟩
    | test configId health scope => exact hhealth _ hslips
    | synthetics ping => exact hhealth _ hslips
    | tenant k body scope =>
      refine ⟨h.features, h.deprecated, h.meters, h.maintenanceWindows, fun now t hlt => ?_⟩
      refine h.providers now t ?_
      simpa only [List.length_modify] using hlt
    | domain k body _ =>
      exact ⟨h.features, h.deprecated, h.meters, h.maintenanceWindows, h.providers⟩
  rw [respondConfig, if_neg hallowed]
  exact h

/-- **Nothing in the caches is out of date.** -/
structure FreshConfigs (env : ConfigEnv) (s : ConfigStore) (caches : ConfigCaches) : Prop where
  runtime : ∀ e ∈ caches.runtime.entries,
    uncachedConfig env s e.2.payload.updatedAt e.1 = some e.2.payload
  version : ∀ v ∈ caches.version, v.2 = s.db.configVersion
  catalog : ∀ c ∈ caches.catalog, c.1 = s.db.configVersion ∧ SameCatalog s c.2

theorem freshConfigs_empty : FreshConfigs env s {} :=
  ⟨fun e h => (by cases h), fun v h => (by cases h), fun c h => (by cases h)⟩

/-! ### Reads -/

section Read
variable {nowMono now : Time} {t : ℕ} {caches : ConfigCaches}

theorem freshEntry_mem {e : ConfigEntry} (h : freshEntry env nowMono t caches = some e) :
    (t, e) ∈ caches.runtime.entries :=
  OrderedMap.get?_eq_some.1 (Option.filter_eq_some_iff.1 h).1

theorem cachedConfigVersion_fresh (nowMono : Time) (h : FreshConfigs env s caches) :
    (cachedConfigVersion nowMono s caches).1 = s.db.configVersion
      ∧ FreshConfigs env s (cachedConfigVersion nowMono s caches).2 := by
  simp only [cachedConfigVersion]
  split
  · rename_i v hv
    exact ⟨h.version v (Option.filter_eq_some_iff.1 hv).1, h⟩
  refine ⟨rfl, h.runtime, ?_, h.catalog⟩
  rintro v ⟨⟩
  rfl

theorem getCatalogSnapshot_fresh (h : FreshConfigs env s caches) :
    SameCatalog s (getCatalogSnapshot s s.db.configVersion caches).1
      ∧ FreshConfigs env s (getCatalogSnapshot s s.db.configVersion caches).2 := by
  simp only [getCatalogSnapshot]
  split
  · rename_i c hc
    exact ⟨(h.catalog c (Option.filter_eq_some_iff.1 hc).1).2, h⟩
  refine ⟨.rfl, h.runtime, h.version, ?_⟩
  rintro c ⟨⟩
  exact ⟨rfl, .rfl⟩

theorem mem_of_pruneConfigs {runtime : OrderedMap ℕ ConfigEntry} {e : ℕ × ConfigEntry}
    (h : e ∈ (pruneConfigs runtime).entries) : e ∈ runtime.entries := by
  rw [pruneConfigs] at h
  split at h
  · exact List.mem_of_mem_drop h
  · exact h

/-- A build returns, and stores, what an uncached one returns. -/
theorem buildAndStore_fresh (h : FreshConfigs env s caches) :
    (∀ payload, (buildAndStore env nowMono now t s.db.configVersion caches s).1 = some payload →
        uncachedConfig env s payload.updatedAt t = some payload)
      ∧ FreshConfigs env s (buildAndStore env nowMono now t s.db.configVersion caches s).2 := by
  obtain ⟨hcatalog, hfresh⟩ := getCatalogSnapshot_fresh h
  have hbuild := hcatalog.build env now t
  simp only [buildAndStore]
  rw [hbuild]
  cases hpayload : uncachedConfig env s now t with
  | none => exact ⟨fun payload h => (by cases h), hfresh⟩
  | some payload =>
    have hat : payload.updatedAt = now := by
      rw [uncachedConfig, buildRuntimeConfig, Option.map_eq_some_iff] at hpayload
      obtain ⟨tenant, -, rfl⟩ := hpayload
      rfl
    have hown : uncachedConfig env s payload.updatedAt t = some payload := by rw [hat, hpayload]
    refine ⟨?_, ?_, hfresh.version, hfresh.catalog⟩
    · rintro payload' ⟨⟩
      exact hown
    intro e he
    rcases OrderedMap.mem_set.1 (mem_of_pruneConfigs he) with rfl | ⟨-, he⟩
    · exact hown
    · exact hfresh.runtime e he

/-- **A read returns what an uncached build returns, and leaves the caches fresh.** -/
theorem serveConfig_fresh (h : FreshConfigs env p.store p.caches) :
    (∀ payload, (serveConfig env nowMono now t p).1 = some payload →
        uncachedConfig env p.store payload.updatedAt t = some payload)
      ∧ FreshConfigs env p.store (serveConfig env nowMono now t p).2 := by
  simp only [serveConfig]
  split
  · rename_i e he
    refine ⟨?_, h⟩
    rintro payload ⟨⟩
    exact h.runtime (t, e) (freshEntry_mem he)
  obtain ⟨hversion, hfresh⟩ := cachedConfigVersion_fresh nowMono h
  split
  · rename_i e he
    refine ⟨?_, hfresh⟩
    rintro payload ⟨⟩
    exact hfresh.runtime (t, e) (freshEntry_mem (Option.filter_eq_some_iff.1 he).1)
  rw [hversion]
  exact buildAndStore_fresh hfresh

end Read

/-! ### Mutations -/

/-- **A mutation that does not slip leaves the caches fresh.** -/
theorem mutate_fresh {at_ : Time} {staff : StaffContext} {call : ConfigCall}
    (h : FreshConfigs env p.store p.caches) (hslips : slips env staff p.store call = false) :
    FreshConfigs env (mutate cfg at_ staff call p).store (mutate cfg at_ staff call p).caches := by
  simp only [mutate]
  split
  · rename_i hversion
    have hsame : ∀ now t, uncachedConfig env (respondConfig cfg at_ staff call p.store).store now t
        = uncachedConfig env p.store now t := by
      rcases respondConfig_of_not_slips hslips with hbumped | hsame
      · exact absurd hversion (Nat.ne_of_gt hbumped)
      · exact hsame
    refine ⟨fun e he => ?_, fun v hv => ?_, fun c hc => ?_⟩
    · rw [hsame]
      exact h.runtime e he
    · rw [hversion]
      exact h.version v hv
    rw [hversion]
    exact ⟨(h.catalog c hc).1, (h.catalog c hc).2.respond hslips hversion⟩
  · exact freshConfigs_empty

/-! ## Runs -/

/-- **The config version tracks a mutation exactly when it does not slip; and along a run of
mutations that do not, whatever is served is what an uncached build returns.** -/
theorem config_version_tracks (env : ConfigEnv) (cfg : Settings) :
    (∀ at_ staff call p, Tracks env cfg at_ staff call p ↔ slips env staff p.store call = false)
      ∧ ∀ store es,
        Along (planeStep env cfg) (fun p e => e.slips env p.store = false) { store } es →
        ∀ pre, pre <+: es → ServesCurrentConfig env (run (planeStep env cfg) { store } pre) := by
  refine ⟨tracks_iff env cfg, fun store es halong pre hpre => ?_⟩
  have hfresh : FreshConfigs env (run (planeStep env cfg) { store } pre).store
      (run (planeStep env cfg) { store } pre).caches := by
    refine along_invariant_throughout (I := fun p : ConfigPlane =>
      FreshConfigs env p.store p.caches) ?_ freshConfigs_empty halong hpre
    intro p e h hslips
    cases e with
    | mutation at_ staff call => exact mutate_fresh h hslips
    | read nowMono now t => exact (serveConfig_fresh h).2
  exact fun nowMono now t payload => (serveConfig_fresh hfresh).1 payload

namespace Example

def configEnv : ConfigEnv := { digest := fun _ => 17, runtimeConfigTtlSeconds := 60 }

/-- A school that is served live with a payment provider that has a failover policy. -/
def paying : ConfigStore :=
  { db :=
      { tenants :=
          [{ externalId := "s", slug := "s", name := "School", status := .active
             statusMessage := "", statusReason := "", region := "NG", residencyTag := "NG"
             legalHold := false, legalHoldReason := "", adminEmail := "", adminPhone := ""
             tags := [], notes := "", courtesyUnlockUntil := none, createdAt := day 0 }]
        providerConfigs := [{ capability := "payment", tenantId := none, providerId := "paystack"
                              mode := "live", healthStatus := "green" }]
        failoverPolicies := [{ capability := "payment", tenantId := none
                               primaryProviderId := "paystack", secondaryProviderId := "flutterwave"
                               enabled := true, failureThreshold := 3, cooldownSeconds := 300
                               reason := "" }] } }

def watcher : StaffContext :=
  { id := "1", email := "ops@example.edu"
    permissions := ["providers:write", "monitoring:read", "tenants:write"] }

/-- A test of the payment provider's connection, with this result. -/
def tested (health : String) : ConfigCall := .staff (.testConnection 0 health) rfl

/-- The school is served before and after a test that leaves the provider in use. -/
def degraded : List PlaneEvent :=
  [.read 0 (day 0) 0, .mutation (day 0) watcher (tested "amber"), .read 0 (day 0) 0]

end Example

/-- A provider that turns amber is not failed over from. -/
theorem config_version_tracks_example :
    Tracks Example.configEnv Example.settings (Example.day 0) Example.watcher
        (Example.tested "amber") { store := Example.paying }
      ∧ ServesCurrentConfig Example.configEnv
        (run (planeStep Example.configEnv Example.settings) { store := Example.paying }
          Example.degraded) :=
  ⟨((config_version_tracks Example.configEnv Example.settings).1 (Example.day 0) Example.watcher
      (Example.tested "amber") { store := Example.paying }).2 (by decide),
    (config_version_tracks Example.configEnv Example.settings).2 Example.paying Example.degraded
      ⟨by decide, by decide, by decide, trivial⟩ Example.degraded
      List.prefix_rfl⟩

/-- A provider that turns red is: its test, and a live health snapshot, change what the school is
served with and leave the version; and an hour later the school is still told of the provider
that failed. -/
theorem not_config_version_tracks :
    ¬ Tracks Example.configEnv Example.settings (Example.day 0) Example.watcher
        (Example.tested "red") { store := Example.paying }
      ∧ ¬ Tracks Example.configEnv Example.settings (Example.day 0) Example.watcher
        (.synthetics true fun _ => "red") { store := Example.paying }
      ∧ ¬ ServesCurrentConfig Example.configEnv
        (run (planeStep Example.configEnv Example.settings) { store := Example.paying }
          [.read 0 (Example.day 0) 0,
            .mutation (Example.day 0) Example.watcher (Example.tested "red")]) := by
  refine ⟨?_, ?_, ?_⟩
  · rw [tracks_iff, Bool.not_eq_false]
    decide
  · rw [tracks_iff, Bool.not_eq_false]
    decide
  intro h
  have hserved := h (Time.seconds 3600) (Example.day 0) 0 _ rfl
  have hprovider := congrArg (Option.map fun payload => payload.providers "payment") hserved
  revert hprovider
  decide

end MultiAcademy.Control
