import MultiAcademy.Control.ConfigRoutes

/-!
# Which mutations show in a runtime config without a bump

Four mutations commit without `bump_config_version` although they write what a runtime config is
built from: the two that record the health of a provider, the edit of a tenant and the new
domain.  This module says exactly when what they write shows in the payload of some tenant at
some time.
-/

namespace MultiAcademy.Control

open MultiAcademy.Lib

/-! ## The condition -/

/-- The configuration that serves a tenant for a capability: its own, or else the global one. -/
def servingConfigId (db : Db) (t : ℕ) (c : String) : Option ℕ :=
  (db.providerConfigs.first? fun config => configFor c config && config.tenantId = some t).or
    (db.providerConfigs.first? fun config => configFor c config && config.tenantId = none)

/-- The secondary is served whatever the health of the primary: the policy has been tripped
without a time to recover from, and the settings name no other provider. -/
def alwaysSecondary (policy : ProviderFailoverPolicy) (config : ProviderConfig) : Bool :=
  policy.isTripped && policy.trippedAt.isNone
    && (config.settings.lookup "providerId").getD policy.secondaryProviderId
      = policy.secondaryProviderId

/-- The health turns red, or back, on the primary of a policy that acts on it. -/
def healthActs (policy? : Option ProviderFailoverPolicy) (config : ProviderConfig)
    (health : String) : Bool :=
  (decide (config.healthStatus = "red") != decide (health = "red"))
    && policy?.any fun policy =>
      policy.enabled && config.providerId = policy.primaryProviderId
        && !alwaysSecondary policy config

/-- Recorded health acts on what a tenant is served with for a capability. -/
def healthShows (db : Db) (results : ℕ → Option String) (t : ℕ) (c : String) : Bool :=
  (servingConfigId db t c).any fun i => (db.providerConfigs[i]?).any fun config =>
    (results i).any fun health => healthActs (chosenPolicy db.failoverPolicies t c) config health

/-- Recorded health acts on what some tenant is served with. -/
def healthChanges (db : Db) (results : ℕ → Option String) : Bool :=
  (List.range db.tenants.length).any fun t =>
    db.providerConfigs.any fun config => healthShows db results t config.capability

/-- The sources of a flag's value below the rollouts, with the flag's default. -/
def belowRollouts (s : ConfigStore) (t : ℕ) (flag : FeatureFlag) : Bool :=
  let overrides := (s.overrides.map (·.2)).filter fun row =>
    row.tenantId = some t ∨ row.tenantId = none
  let sub := currentSubscription s.db t
  let e := (sub.map (entitled s.db s.entitlements)).getD {}
  ((entitlementOf sub e flag).or
    ((overrideOf (planOverride e.plan) overrides flag).or
      (overrideOf globalOverride overrides flag))).getD flag.defaultEnabled

/-- Only a rollout can turn the flag on for the tenant. -/
def leftToRollouts (s : ConfigStore) (t : ℕ) (flag : FeatureFlag) : Bool :=
  !flag.killSwitch
    && (overrideOf (tenantOverride t) ((s.overrides.map (·.2)).filter fun row =>
        row.tenantId = some t ∨ row.tenantId = none) flag).isNone
    && !belowRollouts s t flag

/-- A freeze that does not expire. -/
def alwaysFrozen (s : ConfigStore) (t : ℕ) (key : String) : Bool :=
  s.blocks.any fun block =>
    block.isActive && (block.tenantId = some t || block.tenantId = none)
      && block.targetType = "capability" && block.expiresAt.isNone && frozenBy block.value key

def tagsShow (env : ConfigEnv) (s : ConfigStore) (t : ℕ) (tenant : Tenant)
    (tags : List String) : Bool :=
  let rolled (tags : List String) (flag : FeatureFlag) : Bool :=
    rolledOut (s.rollouts.filter (·.enabled)) tags (env.digest tenant.externalId % 100) flag.key
  s.db.flags.any fun flag =>
    leftToRollouts s t flag && (rolled tenant.tags flag != rolled tags flag)
      && !alwaysFrozen s t flag.key

def tenantShows (env : ConfigEnv) (s : ConfigStore) (t : ℕ) (body : TenantUpdate) : Bool :=
  (s.db.tenants[t]?).any fun tenant =>
    (body.apply tenant).residency ≠ tenant.residency
      || (body.apply tenant).legalHold ≠ tenant.legalHold
      || tagsShow env s t tenant (body.apply tenant).tags

/-- What the handler of a mutation writes shows, and it does not bump. -/
def ConfigCall.slips (env : ConfigEnv) (s : ConfigStore) : ConfigCall → Bool
  | .synthetics true ping => healthChanges s.db (syntheticResults ping s.db.providerConfigs)
  | .staff (.testConnection configId health) _ => healthChanges s.db (testResult configId health)
  | .staff (.updateTenant t body) _ => tenantShows env s t body
  | .addTenantDomain t body => (body.problem s t).isNone && body.kind = "subdomain"
  | _ => false

/-- The mutation is let through, and slips. -/
def slips (env : ConfigEnv) (staff : StaffContext) (s : ConfigStore) (call : ConfigCall) : Bool :=
  decide (call.permission ∈ staff.permissions) && call.slips env s

variable {env : ConfigEnv} {s : ConfigStore} {now : Time} {t : ℕ} {c : String} {db : Db}

/-! ## Tables that are read alike -/

theorem uncachedConfig_same {db' : Db} (h : SameConfig s.db db')
    (keys : (db'.flags.map (·.key)).Nodup) :
    uncachedConfig env { s with db := db', keys } now t = uncachedConfig env s now t := by
  obtain ⟨db, entitlements, overrides, nextOverrideId, rollouts, blocks, windows, domains,
    feeSplits, accounts, bindings, toggles, policies, meters, rollups, skeys⟩ := s
  obtain ⟨tenants, subscriptions, plans, templates, invoices, payments, trials, installs, jobs,
    offboardJobs, blacklist, requests, configs, failover, flags, outbox, version⟩ := db
  obtain ⟨tenants', subscriptions', plans', templates', invoices', payments', trials', installs',
    jobs', offboardJobs', blacklist', requests', configs', failover', flags', outbox',
    version'⟩ := db'
  obtain ⟨h1, h2, h3, h4, h5, h6, h7, h8⟩ := h
  dsimp only at h1 h2 h3 h4 h5 h6 h7 h8
  subst h1 h2 h3 h4 h5 h6 h7 h8
  rfl

/-! ## Plans -/

theorem getElem?_plans_key (body : PlanUpdate) (i k : ℕ) (plans : Table Plan) :
    ((plans.modify i body.apply)[k]?).map (·.key) = (plans[k]?).map (·.key) := by
  rw [← List.getElem?_map, ← List.getElem?_map, Table.map_modify]
  exact fun plan => rfl

/-- What is entitled to under two plan tables with the same keys. -/
theorem entitled_plan {plans : Table Plan} (entitlements : Table PlanEntitlement)
    (hkeys : ∀ k : ℕ, (plans[k]?).map (·.key) = (db.plans[k]?).map (·.key)) (sub : Subscription) :
    (entitled { db with plans } entitlements sub).plan.map (fun found => (found.1, found.2.key))
        = (entitled db entitlements sub).plan.map (fun found => (found.1, found.2.key))
      ∧ (entitled { db with plans } entitlements sub).planEntitlements
        = (entitled db entitlements sub).planEntitlements
      ∧ (entitled { db with plans } entitlements sub).customEntitlements
        = (entitled db entitlements sub).customEntitlements
      ∧ (entitled { db with plans } entitlements sub).quotas
        = (entitled db entitlements sub).quotas := by
  simp only [entitled]
  cases sub.type with
  | custom => exact ⟨rfl, rfl, rfl, rfl⟩
  | catalog =>
    cases sub.planId.filter fun _ => sub.entitles with
    | none => exact ⟨rfl, rfl, rfl, rfl⟩
    | some planId =>
      have hkey := hkeys planId
      cases hold : db.plans[planId]? with
      | none =>
        rw [hold, Option.map_none, Option.map_eq_none_iff] at hkey
        simp [hkey, hold]
      | some plan =>
        rw [hold, Option.map_some, Option.map_eq_some_iff] at hkey
        obtain ⟨plan', hnew, hkey⟩ := hkey
        simp [hnew, hold, hkey]

theorem planRank_congr {plan plan' : Option (ℕ × Plan)}
    (h : plan'.map (fun found => (found.1, found.2.key))
      = plan.map fun found => (found.1, found.2.key)) : planRank plan' = planRank plan := by
  have hrank : ∀ plan : Option (ℕ × Plan), planRank plan
      = ((plan.map fun found => (found.1, found.2.key)).bind fun found =>
          planRanks.lookup found.2).getD 0 := by
    intro plan
    cases plan <;> rfl
  rw [hrank, hrank, h]

theorem planOverride_congr {plan plan' : Option (ℕ × Plan)}
    (h : plan'.map (fun found => (found.1, found.2.key))
      = plan.map fun found => (found.1, found.2.key)) : planOverride plan' = planOverride plan := by
  have hoverride : ∀ plan : Option (ℕ × Plan), planOverride plan = fun row =>
      row.scope = "plan" && (plan.map fun found => (found.1, found.2.key)).any fun found =>
        row.planId = some found.1 := by
    intro plan
    cases plan <;> rfl
  rw [hoverride, hoverride, h]

/-- The resolver reads of a plan its key alone. -/
theorem resolveFeatures_plans {plans : Table Plan}
    (hkeys : ∀ k : ℕ, (plans[k]?).map (·.key) = (db.plans[k]?).map (·.key))
    (digest : String → ℕ) (entitlements : Table PlanEntitlement) (overrides : Table FlagOverride)
    (catalog : CatalogSnapshot) (tenant : Tenant) :
    resolveFeatures digest { db with plans } entitlements overrides catalog t tenant
      = resolveFeatures digest db entitlements overrides catalog t tenant := by
  have hsub : currentSubscription { db with plans } t = currentSubscription db t := rfl
  simp only [resolveFeatures, hsub]
  cases currentSubscription db t with
  | none => rfl
  | some sub =>
    obtain ⟨hplan, hentitlements, hcustom, hquotas⟩ := entitled_plan entitlements hkeys sub
    have hbase : ∀ globals planRows tenants,
        baseEnabled (some sub) (entitled { db with plans } entitlements sub) globals planRows
            tenants
          = baseEnabled (some sub) (entitled db entitlements sub) globals planRows tenants := by
      intro globals planRows tenants
      funext flag
      simp only [baseEnabled, hentitlements, hcustom, planRank_congr hplan]
    simp only [Option.map_some, Option.getD_some, hbase, hquotas, planOverride_congr hplan]

theorem uncachedConfig_plan (i : ℕ) (body : PlanUpdate) :
    uncachedConfig env
        { s with db := { s.db with plans := s.db.plans.modify i body.apply }, keys := s.keys } now t
      = uncachedConfig env s now t := by
  have hkeys := fun k => getElem?_plans_key body i k s.db.plans
  have hsub : subscriptionEntry now { s.db with plans := s.db.plans.modify i body.apply } t
      = subscriptionEntry now s.db t := by
    simp only [subscriptionEntry, hkeys]
    rfl
  have hquotas : publishedQuotas { s.db with plans := s.db.plans.modify i body.apply }
      s.entitlements t = publishedQuotas s.db s.entitlements t := by
    have hcurrent : currentSubscription { s.db with plans := s.db.plans.modify i body.apply } t
        = currentSubscription s.db t := rfl
    simp only [publishedQuotas, hcurrent]
    cases currentSubscription s.db t with
    | none => rfl
    | some sub => exact (entitled_plan s.entitlements hkeys sub).2.2.2
  rw [uncachedConfig, uncachedConfig, buildRuntimeConfig, buildRuntimeConfig]
  congr 1
  funext tenant
  simp only [tenantPayload, configFeatures, runtimeFeatures, resolveFeatures_plans hkeys, hsub,
    usageRemaining, hquotas]
  rfl

/-! ## Health -/

variable (results : ℕ → Option String)

theorem uncachedConfig_recordHealth :
    uncachedConfig env (s.recordHealth results) now t
      = (uncachedConfig env s now t).map fun payload =>
          { payload with
            providers := resolveProviders (loadCatalog (s.recordHealth results)) now t } := by
  simp only [uncachedConfig, buildRuntimeConfig, Option.map_map]
  rfl

/-- A filter that keeps every row that qualifies serves alike. -/
theorem serving_filter {α : Type} {owner : α → Option ℕ} {p q : α → Bool}
    (h : ∀ r, p r = true → q r = true) (k : ℕ) (rows : List α) :
    serving owner p k (rows.filter q) = serving owner p k rows := by
  have hrow : ∀ x, rowOf owner p x (rows.filter q) = rowOf owner p x rows := by
    intro x
    rw [rowOf, rowOf, List.find?_filter]
    congr 1
    funext r
    cases hp : p r with
    | false => simp
    | true => simp [h r hp]
  rw [serving, serving, hrow, hrow]

theorem chosenPolicy_filter (policies : Table ProviderFailoverPolicy) :
    chosenPolicy (policies.filter (·.enabled)) t c = chosenPolicy policies t c := by
  rw [chosenPolicy_eq, chosenPolicy_eq, serving_filter]
  intro policy hpolicy
  rw [policyFor, Bool.and_eq_true] at hpolicy
  exact hpolicy.1

/-- The snapshot keeps the rows that can be chosen. -/
theorem resolveProviders_loadCatalog :
    resolveProviders (loadCatalog s) now t c = resolveProvider s.db now t c := by
  have hconfig : chosenConfig
      { providerConfigs := (loadCatalog s).providerConfigs
        failoverPolicies := (loadCatalog s).failoverPolicies } t c = chosenConfig s.db t c := by
    rw [chosenConfig_eq, chosenConfig_eq]
    refine serving_filter ?_ t s.db.providerConfigs
    intro config hconfig
    rw [configFor, Bool.and_eq_true] at hconfig
    exact hconfig.1
  rw [resolveProviders, resolveProvider, resolveProvider, hconfig]
  exact congrArg (fun policy? => (chosenConfig s.db t c).map (providerEntry now policy?))
    (chosenPolicy_filter s.db.failoverPolicies)

/-- The configuration chosen for a tenant is the row that serves it. -/
theorem chosenConfig_eq_row :
    chosenConfig db t c = (servingConfigId db t c).bind fun i => db.providerConfigs[i]? := by
  rw [chosenConfig_eq, serving, rowOf, rowOf, ← Table.first?_bind, ← Table.first?_bind,
    servingConfigId]
  cases hown : db.providerConfigs.first? fun config =>
      configFor c config && config.tenantId = some t with
  | none => rfl
  | some i =>
    obtain ⟨config, hrow, -⟩ := Table.mem_select.1 (Table.mem_of_first? hown)
    rw [Option.bind_some, hrow, Option.some_or, Option.some_or, Option.bind_some, hrow]

def reportedHealth (config : ProviderConfig) (health? : Option String) : ProviderConfig :=
  { config with healthStatus := health?.getD config.healthStatus }

theorem getElem?_recordHealth (configs : Table ProviderConfig)
    (i : ℕ) :
    (recordHealth results configs)[i]? = (configs[i]?).map fun config =>
      reportedHealth config (results i) := by
  rw [recordHealth, List.getElem?_mapIdx]
  congr 1
  funext config
  cases results i <;> rfl

theorem first?_recordHealth {p : ProviderConfig → Bool}
    (hp : ∀ config health?, p (reportedHealth config health?) = p config)
    (configs : Table ProviderConfig) :
    (recordHealth results configs).first? p = configs.first? p := by
  have hlength : (recordHealth results configs).length = configs.length := by
    rw [recordHealth, List.length_mapIdx]
  rw [Table.first?, Table.first?, Table.select, Table.select, hlength]
  congr 2
  funext i
  rw [getElem?_recordHealth]
  cases configs[i]? with
  | none => rfl
  | some config => simp [hp]

/-- What is served after health is recorded. -/
theorem resolveProvider_recordHealth :
    resolveProvider (s.recordHealth results).db now t c
      = (servingConfigId s.db t c).bind fun i => (s.db.providerConfigs[i]?).map fun config =>
          providerEntry now (chosenPolicy s.db.failoverPolicies t c)
            (reportedHealth config (results i)) := by
  have hid : servingConfigId (s.recordHealth results).db t c = servingConfigId s.db t c := by
    simp only [servingConfigId, ConfigStore.recordHealth]
    rw [first?_recordHealth, first?_recordHealth] <;> exact fun config health? => rfl
  rw [resolveProvider, chosenConfig_eq_row, hid, Option.map_bind]
  congr 1
  funext i
  simp only [Function.comp_apply, ConfigStore.recordHealth, getElem?_recordHealth, Option.map_map]
  rfl

/-- An entry under a policy, by what the policy does. -/
theorem providerEntry_some (now : Time) (policy : ProviderFailoverPolicy)
    (config : ProviderConfig) :
    providerEntry now (some policy) config
      = { providerId :=
            if redPrimary policy config then policy.secondaryProviderId
            else (config.settings.lookup "providerId").getD
              (if trippedFor now policy config then policy.secondaryProviderId
                else config.providerId)
          mode := (config.settings.lookup "mode").getD config.mode
          settings := config.settings
          failover :=
            if redPrimary policy config || trippedFor now policy config then
              some (policy.primaryProviderId, policy.secondaryProviderId)
            else none } := by
  cases hred : redPrimary policy config <;> cases htripped : trippedFor now policy config <;>
    simp [providerEntry, Option.filter, hred, htripped]

variable {health key : String} {config : ProviderConfig} {policy : ProviderFailoverPolicy}

theorem healthActs_iff :
    healthActs (some policy) config health = true
      ↔ redPrimary policy { config with healthStatus := health } ≠ redPrimary policy config
        ∧ alwaysSecondary policy config = false := by
  rw [healthActs, Option.any_some, redPrimary, redPrimary]
  cases policy.enabled <;> cases decide (config.providerId = policy.primaryProviderId) <;>
    cases decide (config.healthStatus = "red") <;> cases decide (health = "red") <;>
      cases alwaysSecondary policy config <;> simp

theorem trippedFor_of_alwaysSecondary (now : Time) (henabled : policy.enabled = true)
    (h : alwaysSecondary policy config = true) :
    trippedFor now policy config = true
      ∧ (config.settings.lookup "providerId").getD policy.secondaryProviderId
        = policy.secondaryProviderId := by
  simp only [alwaysSecondary, Bool.and_eq_true, Option.isNone_iff_eq_none, decide_eq_true_eq] at h
  obtain ⟨⟨htripped, hat⟩, hsettings⟩ := h
  exact ⟨by simp [trippedFor, failoverActive, henabled, htripped, hat], hsettings⟩

/-- Health that does not act leaves the entry as it was. -/
theorem providerEntry_of_not_acts {policy? : Option ProviderFailoverPolicy} (h : healthActs policy? config health = false) :
    providerEntry now policy? { config with healthStatus := health }
      = providerEntry now policy? config := by
  cases policy? with
  | none => rfl
  | some policy =>
    have htripped : trippedFor now policy { config with healthStatus := health }
        = trippedFor now policy config := rfl
    rw [providerEntry_some, providerEntry_some, htripped]
    by_cases hred : redPrimary policy { config with healthStatus := health }
        = redPrimary policy config
    · rw [hred]
    -- the primary turns red, or back, under a settled policy
    have hsettled : alwaysSecondary policy config = true := by
      by_contra hnot
      rw [healthActs_iff.2 ⟨hred, by simpa using hnot⟩] at h
      cases h
    have henabled : policy.enabled = true := by
      by_contra hnot
      rw [Bool.not_eq_true] at hnot
      exact hred (by simp [redPrimary, hnot])
    obtain ⟨hactive, hsettings⟩ :=
      trippedFor_of_alwaysSecondary now henabled hsettled
    simp [hactive, hsettings]

/-- A policy that is not settled is out of force at some time, or the settings name another
provider than its secondary. -/
theorem exists_not_tripped
    (h : alwaysSecondary policy config = false) :
    ∃ now, trippedFor now policy config = false
      ∨ (config.settings.lookup "providerId").getD policy.secondaryProviderId
        ≠ policy.secondaryProviderId := by
  cases htripped : policy.isTripped with
  | false => exact ⟨0, Or.inl (by simp [trippedFor, failoverActive, htripped])⟩
  | true =>
    cases hat : policy.trippedAt with
    | some tripped =>
      -- after its cooldown
      refine ⟨tripped + Time.seconds policy.cooldownSeconds + 1, Or.inl ?_⟩
      simp only [trippedFor, failoverActive, hat, Option.all_some, Bool.and_eq_false_iff,
        decide_eq_false_iff_not]
      exact Or.inl (Or.inr (Int.not_le.2 (Int.lt_add_one_of_le (Int.le_refl _))))
    | none =>
      refine ⟨0, Or.inr ?_⟩
      simpa [alwaysSecondary, htripped, hat] using h

/-- Health that acts shows at some time. -/
theorem exists_providerEntry_of_acts {policy? : Option ProviderFailoverPolicy} (h : healthActs policy? config health = true) :
    ∃ now, providerEntry now policy? { config with healthStatus := health }
      ≠ providerEntry now policy? config := by
  cases policy? with
  | none => simp [healthActs] at h
  | some policy =>
    obtain ⟨hred, hopen⟩ := healthActs_iff.1 h
    obtain ⟨now, hnow⟩ := exists_not_tripped hopen
    refine ⟨now, ?_⟩
    have htripped : trippedFor now policy { config with healthStatus := health }
        = trippedFor now policy config := rfl
    rw [providerEntry_some, providerEntry_some, htripped]
    intro hsame
    rw [ProviderEntry.mk.injEq] at hsame
    obtain ⟨hprovider, -, -, hfailover⟩ := hsame
    rcases hnow with hnow | hnow
    · -- only a red primary is failed over from
      rw [hnow] at hfailover
      revert hred hfailover
      cases redPrimary policy { config with healthStatus := health } <;>
        cases redPrimary policy config <;> simp
    cases hactive : trippedFor now policy config with
    | false =>
      rw [hactive] at hfailover
      revert hred hfailover
      cases redPrimary policy { config with healthStatus := health } <;>
        cases redPrimary policy config <;> simp
    | true =>
      rw [hactive] at hprovider
      revert hred hprovider
      cases redPrimary policy { config with healthStatus := health } <;>
        cases redPrimary policy config <;> simp [hnow, Ne.symm hnow]

/-- **Recorded health shows to a tenant exactly when it acts on what serves it.** -/
theorem providers_recordHealth_iff :
    (∀ now c, resolveProvider (s.recordHealth results).db now t c = resolveProvider s.db now t c)
      ↔ ∀ c, healthShows s.db results t c = false := by
  have hentry : ∀ now c, resolveProvider s.db now t c
      = (servingConfigId s.db t c).bind fun i => (s.db.providerConfigs[i]?).map fun config =>
          providerEntry now (chosenPolicy s.db.failoverPolicies t c) config := by
    intro now c
    rw [resolveProvider, chosenConfig_eq_row, Option.map_bind]
    rfl
  constructor
  · intro h c
    by_contra hshows
    rw [Bool.not_eq_false, healthShows, Option.any_eq_true] at hshows
    obtain ⟨i, hi, hshows⟩ := hshows
    obtain ⟨config, hrow, hshows⟩ := (Option.any_eq_true _ _).1 hshows
    obtain ⟨health, hresult, hacts⟩ := (Option.any_eq_true _ _).1 hshows
    obtain ⟨now, hne⟩ := exists_providerEntry_of_acts hacts
    have hsame := h now c
    rw [resolveProvider_recordHealth, hentry, hi, Option.bind_some, Option.bind_some, hrow,
      Option.map_some, Option.map_some, Option.some.injEq, hresult] at hsame
    exact hne hsame
  intro h now c
  rw [resolveProvider_recordHealth, hentry]
  have hshows := h c
  rw [healthShows] at hshows
  cases hi : servingConfigId s.db t c with
  | none => rfl
  | some i =>
    cases hrow : s.db.providerConfigs[i]? with
    | none => simp [hrow]
    | some config =>
      cases hresult : results i with
      | none => simp [hrow, hresult, reportedHealth]
      | some health =>
        simp only [hi, hrow, hresult, Option.any_some] at hshows
        simp only [Option.bind_some, hrow, Option.map_some, hresult]
        exact congrArg some (providerEntry_of_not_acts hshows)

theorem servingConfigId_capability {i : ℕ} (h : servingConfigId db t c = some i) :
    ∃ config ∈ db.providerConfigs, config.capability = c := by
  have hfor : ∀ x, (db.providerConfigs.first? fun config => configFor c config
      && config.tenantId = x) = some i → ∃ config ∈ db.providerConfigs, config.capability = c := by
    intro x hfirst
    obtain ⟨config, hrow, hq⟩ := Table.mem_select.1 (Table.mem_of_first? hfirst)
    simp only [configFor, Bool.and_eq_true, decide_eq_true_eq] at hq
    exact ⟨config, List.mem_of_getElem? hrow, hq.1.2⟩
  rw [servingConfigId, Option.or_eq_some_iff] at h
  rcases h with h | ⟨-, h⟩
  · exact hfor _ h
  · exact hfor _ h

theorem healthChanges_eq_false_iff :
    healthChanges s.db results = false
      ↔ ∀ t < s.db.tenants.length, ∀ c, healthShows s.db results t c = false := by
  simp only [healthChanges, List.any_eq_false, List.mem_range, Bool.not_eq_true]
  constructor
  · intro h t hlt c
    rw [← Bool.not_eq_true]
    intro hshows
    obtain ⟨i, hi, -⟩ := (Option.any_eq_true _ _).1 hshows
    obtain ⟨config, hmem, rfl⟩ := servingConfigId_capability hi
    rw [h t hlt config hmem] at hshows
    cases hshows
  intro h t hlt config _
  exact h t hlt config.capability

theorem resolveProviders_recordHealth {results : ℕ → Option String}
    (h : healthChanges s.db results = false) (hlt : t < s.db.tenants.length) (now : Time) :
    resolveProviders (loadCatalog (s.recordHealth results)) now t
      = resolveProviders (loadCatalog s) now t := by
  funext c
  rw [resolveProviders_loadCatalog, resolveProviders_loadCatalog]
  exact (providers_recordHealth_iff results).2
    ((healthChanges_eq_false_iff results).1 h t hlt) now c

/-- **Recorded health shows in no payload exactly when it acts on no tenant.** -/
theorem uncachedConfig_recordHealth_iff (env : ConfigEnv) (results : ℕ → Option String) :
    (∀ now t, uncachedConfig env (s.recordHealth results) now t = uncachedConfig env s now t)
      ↔ healthChanges s.db results = false := by
  constructor
  · intro h
    rw [healthChanges_eq_false_iff]
    intro t hlt
    refine (providers_recordHealth_iff results).1 fun now c => ?_
    have hsame := h now t
    rw [uncachedConfig_recordHealth, uncachedConfig, buildRuntimeConfig,
      List.getElem?_eq_getElem hlt, Option.map_some, Option.map_some, Option.some.injEq] at hsame
    have hc := congrFun (congrArg RuntimePayload.providers hsame) c
    dsimp only [tenantPayload] at hc
    rwa [resolveProviders_loadCatalog, resolveProviders_loadCatalog] at hc
  intro h now t
  rw [uncachedConfig_recordHealth, uncachedConfig, buildRuntimeConfig]
  cases htenant : s.db.tenants[t]? with
  | none => rfl
  | some tenant =>
    rw [Option.map_some, Option.map_some, resolveProviders_recordHealth h (lt_length htenant)]
    rfl

/-! ## Tags -/

/-- The value of the rule: a rollout turns on what nothing stronger decides. -/
theorem reference_tags (env : ConfigEnv) (s : ConfigStore) (t : ℕ) (tenant : Tenant)
    (flag : FeatureFlag) :
    reference env.digest s.db s.entitlements (s.overrides.map (·.2))
        (s.rollouts.filter (·.enabled)) t tenant flag
      = (!flag.killSwitch
        && (overrideOf (tenantOverride t) ((s.overrides.map (·.2)).filter fun row =>
            row.tenantId = some t ∨ row.tenantId = none) flag).getD
          (rolledOut (s.rollouts.filter (·.enabled)) tenant.tags
            (env.digest tenant.externalId % 100) flag.key || belowRollouts s t flag)) := by
  simp only [reference, belowRollouts]
  cases flag.killSwitch with
  | true => rfl
  | false =>
    cases overrideOf (tenantOverride t) _ flag with
    | some value => rfl
    | none =>
      cases rolledOut (s.rollouts.filter (·.enabled)) tenant.tags
        (env.digest tenant.externalId % 100) flag.key <;> simp

theorem exists_after (times : List Time) : ∃ now : Time, ∀ time ∈ times, time < now := by
  induction times with
  | nil => exact ⟨0, fun time h => by cases h⟩
  | cons first times ih =>
    obtain ⟨now, hnow⟩ := ih
    refine ⟨max now (first + 1), fun time hmem => ?_⟩
    rcases List.mem_cons.1 hmem with rfl | hmem
    · exact lt_of_lt_of_le (Int.lt_add_one_of_le (Int.le_refl _)) (le_max_right _ _)
    · exact lt_of_lt_of_le (hnow time hmem) (le_max_left _ _)

theorem frozen_eq (now : Time) (tenant : Tenant) (key : String) :
    frozen now s.blocks s.db t tenant key = s.blocks.any fun block =>
      block.isActive && (block.tenantId = some t || block.tenantId = none)
        && Block.active now block && block.targetType = "capability"
        && frozenBy block.value key := by
  have hfreezes : (resolveEnforcement now s.blocks s.db t tenant).capabilityFreezes
      = ((activeBlocks now s.blocks t).filter fun block => block.targetType = "capability").map
          (·.value) := rfl
  rw [frozen, hfreezes, List.any_map, List.any_filter, activeBlocks, List.any_filter,
    List.any_filter]
  congr 1
  funext block
  simp [Bool.and_assoc]

theorem frozen_of_alwaysFrozen (h : alwaysFrozen s t key = true) (now : Time)
    (tenant : Tenant) : frozen now s.blocks s.db t tenant key = true := by
  rw [alwaysFrozen, List.any_eq_true] at h
  obtain ⟨block, hmem, hblock⟩ := h
  rw [frozen_eq, List.any_eq_true]
  refine ⟨block, hmem, ?_⟩
  simp only [Bool.and_eq_true, Option.isNone_iff_eq_none] at hblock
  obtain ⟨⟨⟨⟨hactive, howner⟩, htarget⟩, hexpires⟩, hfrozen⟩ := hblock
  simp [Block.active, hactive, howner, htarget, hexpires, hfrozen]

theorem exists_not_frozen (h : alwaysFrozen s t key = false) :
    ∃ now, ∀ tenant, frozen now s.blocks s.db t tenant key = false := by
  obtain ⟨now, hnow⟩ := exists_after (s.blocks.filterMap (·.expiresAt))
  refine ⟨now, fun tenant => ?_⟩
  rw [frozen_eq, List.any_eq_false]
  intro block hmem
  rw [alwaysFrozen, List.any_eq_false] at h
  have hnot := h block hmem
  cases hexpires : block.expiresAt with
  | none =>
    simp only [hexpires, Option.isNone_none, Bool.and_true, Block.active, Option.any_none,
      Bool.not_false, Bool.and_eq_true] at hnot ⊢
    rintro ⟨⟨⟨hrow, -⟩, htarget⟩, hfrozen⟩
    exact hnot ⟨⟨hrow, htarget⟩, hfrozen⟩
  | some expires =>
    have hlt := hnow expires (List.mem_filterMap.2 ⟨block, hmem, hexpires⟩)
    simp [Block.active, hexpires, hlt]

theorem configFeatures_flag {flag : FeatureFlag} (hflag : flag ∈ s.db.flags) (env : ConfigEnv)
    (now : Time) (t : ℕ) (tenant : Tenant) :
    configFeatures env (loadCatalog s) s now t tenant flag.key
      = some (reference env.digest s.db s.entitlements (s.overrides.map (·.2))
          (s.rollouts.filter (·.enabled)) t tenant flag
        && !frozen now s.blocks s.db t tenant flag.key) := by
  rw [configFeatures, features_get?_of_mem]
  · rfl
  · exact hflag

theorem configFeatures_other (h : ∀ flag ∈ s.db.flags, flag.key ≠ key)
    (env : ConfigEnv) (now : Time) (t : ℕ) (tenant : Tenant) :
    configFeatures env (loadCatalog s) s now t tenant key = none := by
  rw [← Option.not_isSome_iff_eq_none]
  intro hsome
  rw [configFeatures] at hsome
  obtain ⟨flag, hflag, hkey⟩ := mem_flags_of_feature _ _ _ _ _ _ _ _ _ hsome
  exact h flag hflag hkey

/-- **Other tags show in no features exactly when they decide no rollout.** -/
theorem configFeatures_tags_iff (s : ConfigStore) (env : ConfigEnv) (t : ℕ)
    {tenant tenant' : Tenant} (hid : tenant'.externalId = tenant.externalId) :
    (∀ now, configFeatures env (loadCatalog s) s now t tenant'
        = configFeatures env (loadCatalog s) s now t tenant)
      ↔ tagsShow env s t tenant tenant'.tags = false := by
  have hfrozen : ∀ now key, frozen now s.blocks s.db t tenant' key
      = frozen now s.blocks s.db t tenant key := by
    intro now key
    rw [frozen_eq, frozen_eq]
  constructor
  · intro h
    rw [← Bool.not_eq_true, tagsShow, List.any_eq_true]
    rintro ⟨flag, hflag, hshow⟩
    simp only [Bool.and_eq_true, leftToRollouts, Bool.not_eq_true', Option.isNone_iff_eq_none,
      bne_iff_ne] at hshow
    obtain ⟨⟨⟨⟨hkill, hoverride⟩, hbelow⟩, hne⟩, hopen⟩ := hshow
    obtain ⟨now, hnow⟩ := exists_not_frozen hopen
    have hsame := congrFun (h now) flag.key
    rw [configFeatures_flag hflag, configFeatures_flag hflag, reference_tags, reference_tags, hnow,
      hnow, hoverride, hid] at hsame
    simp only [hkill, hbelow, Option.getD_none, Bool.or_false, Bool.not_false, Bool.true_and,
      Bool.and_true, Option.some.injEq] at hsame
    exact hne hsame.symm
  intro h now
  funext key
  by_cases hkey : ∃ flag ∈ s.db.flags, flag.key = key
  · obtain ⟨flag, hflag, rfl⟩ := hkey
    rw [configFeatures_flag hflag, configFeatures_flag hflag, reference_tags, reference_tags,
      hfrozen, hid]
    have hshow := List.any_eq_false.1 h flag hflag
    cases hfroze : frozen now s.blocks s.db t tenant flag.key with
    | true => simp
    | false =>
      have hopen : alwaysFrozen s t flag.key = false := by
        by_contra halways
        rw [Bool.not_eq_false] at halways
        rw [frozen_of_alwaysFrozen halways] at hfroze
        cases hfroze
      simp only [hopen, leftToRollouts, Bool.not_false, Bool.and_true,
        Bool.not_eq_true] at hshow
      revert hshow
      cases flag.killSwitch with
      | true => simp
      | false =>
        cases overrideOf (tenantOverride t) _ flag with
        | some value => simp
        | none =>
          cases belowRollouts s t flag <;> simp
          exact fun h => h.symm
  have hnone : ∀ flag ∈ s.db.flags, flag.key ≠ key :=
    fun flag hflag hsame => hkey ⟨flag, hflag, hsame⟩
  rw [configFeatures_other hnone, configFeatures_other hnone]

/-! ## Tenants -/

def ConfigStore.editTenant (s : ConfigStore) (t : ℕ) (body : TenantUpdate) : ConfigStore :=
  { s with
    db := { s.db with tenants := s.db.tenants.modify t body.apply }
    keys := s.keys }

theorem Tenant.externalId_apply (tenant : Tenant) (body : TenantUpdate) :
    (body.apply tenant).externalId = tenant.externalId := rfl

theorem uncachedConfig_editTenant (k : ℕ) (body : TenantUpdate) :
    uncachedConfig env (s.editTenant k body) now t
      = (s.db.tenants[t]?).map fun tenant =>
          tenantPayload env (loadCatalog s) s s.db.configVersion now t
            (if k = t then body.apply tenant else tenant) := by
  have hrow : (s.editTenant k body).db.tenants[t]?
      = (s.db.tenants[t]?).map fun tenant => if k = t then body.apply tenant else tenant := by
    rw [ConfigStore.editTenant, List.getElem?_modify]
    rfl
  rw [uncachedConfig, buildRuntimeConfig, hrow, Option.map_map]
  rfl

/-- **An edit of a tenant shows in no payload exactly when it leaves its residency and its hold,
and its tags decide no rollout.** -/
theorem uncachedConfig_editTenant_iff (env : ConfigEnv) (k : ℕ) (body : TenantUpdate) :
    (∀ now t, uncachedConfig env (s.editTenant k body) now t = uncachedConfig env s now t)
      ↔ tenantShows env s k body = false := by
  have hbuild : ∀ now t, uncachedConfig env s now t
      = (s.db.tenants[t]?).map (tenantPayload env (loadCatalog s) s s.db.configVersion now t) :=
    fun now t => rfl
  cases htenant : s.db.tenants[k]? with
  | none =>
    refine iff_of_true (fun now t => ?_) (by rw [tenantShows, htenant, Option.any_none])
    rw [uncachedConfig_editTenant, hbuild]
    by_cases hkt : k = t
    · rw [← hkt, htenant]
      rfl
    · simp only [if_neg hkt]
  | some tenant =>
    have htags := configFeatures_tags_iff s env k (tenant.externalId_apply body)
    have hshows : tenantShows env s k body = false
        ↔ (body.apply tenant).residency = tenant.residency
          ∧ (body.apply tenant).legalHold = tenant.legalHold
          ∧ tagsShow env s k tenant (body.apply tenant).tags = false := by
      rw [tenantShows, htenant, Option.any_some]
      simp [and_assoc]
    rw [hshows, ← htags]
    constructor
    · intro h
      have hfields : ∀ now, tenantPayload env (loadCatalog s) s s.db.configVersion now k
          (body.apply tenant)
            = tenantPayload env (loadCatalog s) s s.db.configVersion now k tenant := by
        intro now
        have hsame := h now k
        rw [uncachedConfig_editTenant, hbuild, htenant, Option.map_some, Option.map_some,
          if_pos rfl, Option.some.injEq] at hsame
        exact hsame
      exact ⟨congrArg RuntimePayload.residencyTag (hfields 0),
        congrArg RuntimePayload.legalHold (hfields 0),
        fun now => congrArg RuntimePayload.features (hfields now)⟩
    rintro ⟨hresidency, hhold, hfeatures⟩ now t
    rw [uncachedConfig_editTenant, hbuild]
    by_cases hkt : k = t
    · subst hkt
      rw [htenant, Option.map_some, Option.map_some, if_pos rfl, tenantPayload, tenantPayload,
        hresidency, hhold, hfeatures now]
      rfl
    · simp only [if_neg hkt]

/-! ## Domains -/

def ConfigStore.addDomain (s : ConfigStore) (row : TenantDomain) : ConfigStore :=
  { s with domains := s.domains.insert row }

/-- **A new domain shows exactly when it is active at once.** -/
theorem uncachedConfig_addDomain_iff (env : ConfigEnv) (row : TenantDomain)
    (htenant : (s.db.tenants[row.tenantId]?).isSome = true) :
    (∀ now t, uncachedConfig env (s.addDomain row) now t = uncachedConfig env s now t)
      ↔ row.status ≠ "active" := by
  have hbuild : ∀ now t, uncachedConfig env (s.addDomain row) now t
      = (uncachedConfig env s now t).map fun payload =>
          { payload with domains := activeDomains (s.addDomain row) t } := by
    intro now t
    simp only [uncachedConfig, buildRuntimeConfig, Option.map_map]
    rfl
  constructor
  · intro h hactive
    obtain ⟨tenant, htenant⟩ := Option.isSome_iff_exists.1 htenant
    have hsame := h 0 row.tenantId
    rw [hbuild, uncachedConfig, buildRuntimeConfig, htenant, Option.map_some, Option.map_some,
      Option.some.injEq] at hsame
    have hlength := congrArg (fun payload => payload.domains.length) hsame
    simp only [tenantPayload, activeDomains, ConfigStore.addDomain, Table.insert,
      List.filter_append, List.length_append] at hlength
    cases hprimary : row.isPrimary <;> simp [hactive, hprimary] at hlength
  intro hpending now t
  have hdomains : activeDomains (s.addDomain row) t = activeDomains s t := by
    simp [activeDomains, ConfigStore.addDomain, Table.insert, List.filter_append, hpending]
  rw [hbuild, hdomains]
  cases htenant : s.db.tenants[t]? with
  | none => simp [uncachedConfig, buildRuntimeConfig, htenant]
  | some tenant =>
    simp only [uncachedConfig, buildRuntimeConfig, htenant, Option.map_some]
    rfl

theorem toRow_active_iff (body : TenantDomainCreate) (k : ℕ) :
    (body.toRow s k).status = "active" ↔ body.kind = "subdomain" := by
  simp only [TenantDomainCreate.toRow]
  split
  · exact iff_of_true rfl ‹_›
  · exact iff_of_false (by decide) ‹_›

/-! ## The mutations -/

section Respond
variable {cfg : Settings} {at_ : Time} {staff : StaffContext} {call : ConfigCall}

theorem respondConfig_of_allowed (hallowed : call.permission ∈ staff.permissions) :
    respondConfig cfg at_ staff call s = call.handle cfg at_ staff s := if_pos hallowed

theorem tenant_of_problem {k : ℕ} {body : TenantDomainCreate} (h : body.problem s k = none) :
    (s.db.tenants[k]?).isSome = true := by
  by_contra hnone
  rw [Bool.not_eq_true, Option.isSome_eq_false_iff] at hnone
  simp only [TenantDomainCreate.problem, hnone, if_true, reduceCtorEq] at h

/-- The tables after a connection test, whether or not there is a configuration. -/
theorem handle_testConnection (configId : ℕ) (health : String)
    (scope : (StaffCall.testConnection configId health).mutatesConfig = true) :
    (handleStaff cfg at_ staff (.testConnection configId health) scope s).store
      = s.recordHealth (testResult configId health) := by
  have hdb : (testConnection configId health s.db).db
      = (s.recordHealth (testResult configId health)).db := by
    simp only [testConnection, ConfigStore.recordHealth, recordHealth_testResult]
    cases hrow : s.db.providerConfigs[configId]? with
    | none => rw [raise_db, List.modify_eq_self (List.getElem?_eq_none_iff.1 hrow)]
    | some config => rfl
  simp only [handleStaff, StaffCall.handle, hdb]
  rfl

/-- The tables after an edit of a tenant, whether or not there is one. -/
theorem handle_updateTenant (k : ℕ) (body : TenantUpdate)
    (scope : (StaffCall.updateTenant k body).mutatesConfig = true) :
    (handleStaff cfg at_ staff (.updateTenant k body) scope s).store = s.editTenant k body := by
  have hdb : (updateTenant k body s.db).db = (s.editTenant k body).db := by
    simp only [updateTenant, ConfigStore.editTenant]
    cases hrow : s.db.tenants[k]? with
    | none => rw [raise_db, List.modify_eq_self (List.getElem?_eq_none_iff.1 hrow)]
    | some tenant => rfl
  simp only [handleStaff, StaffCall.handle, hdb]
  rfl

/-- **A mutation that does not slip bumps the version, or shows in no payload.** -/
theorem respondConfig_of_not_slips (h : slips env staff s call = false) :
    s.db.configVersion < (respondConfig cfg at_ staff call s).store.db.configVersion
      ∨ ∀ now t, uncachedConfig env (respondConfig cfg at_ staff call s).store now t
          = uncachedConfig env s now t := by
  by_cases hallowed : call.permission ∈ staff.permissions
  · rw [slips, decide_eq_true hallowed, Bool.true_and] at h
    have heffect := respondConfig_effect cfg at_ staff s call
    generalize (respondConfig cfg at_ staff call s).store = s' at heffect ⊢
    cases heffect with
    | bumped hversion => exact Or.inl hversion
    | same db' keys hsame => exact Or.inr fun now t => uncachedConfig_same hsame keys
    | plan i body => exact Or.inr fun now t => uncachedConfig_plan i body
    | test configId health scope => exact Or.inr ((uncachedConfig_recordHealth_iff env _).2 h)
    | synthetics ping => exact Or.inr ((uncachedConfig_recordHealth_iff env _).2 h)
    | tenant k body scope => exact Or.inr ((uncachedConfig_editTenant_iff env k body).2 h)
    | domain k body hproblem =>
      rw [ConfigCall.slips, hproblem, Option.isNone_none, Bool.true_and,
        decide_eq_false_iff_not] at h
      refine Or.inr ((uncachedConfig_addDomain_iff env (body.toRow s k)
        (tenant_of_problem hproblem)).2 ?_)
      rwa [Ne, toRow_active_iff]
  refine Or.inr fun now t => ?_
  rw [respondConfig, if_neg hallowed]
  rfl

theorem exists_ne_of_not_forall {s' : ConfigStore}
    (h : ¬ ∀ now t, uncachedConfig env s' now t = uncachedConfig env s now t) :
    ∃ now t, uncachedConfig env s' now t ≠ uncachedConfig env s now t := by
  simpa only [not_forall] using h

/-- **A mutation that slips shows in some payload at some time, and does not bump.** -/
theorem respondConfig_of_slips (h : slips env staff s call = true) :
    (respondConfig cfg at_ staff call s).store.db.configVersion = s.db.configVersion
      ∧ ∃ now t, uncachedConfig env (respondConfig cfg at_ staff call s).store now t
          ≠ uncachedConfig env s now t := by
  rw [slips, Bool.and_eq_true, decide_eq_true_eq] at h
  obtain ⟨hallowed, hslips⟩ := h
  rw [respondConfig_of_allowed hallowed]
  have hhealth : ∀ results, healthChanges s.db results = true →
      (s.recordHealth results).db.configVersion = s.db.configVersion
        ∧ ∃ now t, uncachedConfig env (s.recordHealth results) now t
            ≠ uncachedConfig env s now t := by
    intro results hchanges
    refine ⟨rfl, exists_ne_of_not_forall fun hall => ?_⟩
    rw [(uncachedConfig_recordHealth_iff env results).1 hall] at hchanges
    cases hchanges
  unfold ConfigCall.slips at hslips
  split at hslips
  · exact hhealth _ hslips
  · rw [ConfigCall.handle, handle_testConnection]
    exact hhealth _ hslips
  · rename_i k body scope
    rw [ConfigCall.handle, handle_updateTenant]
    refine ⟨rfl, exists_ne_of_not_forall fun hall => ?_⟩
    rw [(uncachedConfig_editTenant_iff env k body).1 hall] at hslips
    cases hslips
  · rename_i k body
    rw [Bool.and_eq_true, Option.isNone_iff_eq_none, decide_eq_true_eq] at hslips
    obtain ⟨hproblem, hkind⟩ := hslips
    have hstore : (addTenantDomain k body s).store = s.addDomain (body.toRow s k) := by
      simp only [addTenantDomain, hproblem]
      rfl
    rw [ConfigCall.handle, hstore]
    refine ⟨rfl, exists_ne_of_not_forall fun hall => ?_⟩
    exact (uncachedConfig_addDomain_iff env (body.toRow s k) (tenant_of_problem hproblem)).1 hall
      ((toRow_active_iff body k).2 hkind)
  · cases hslips

end Respond

end MultiAcademy.Control
